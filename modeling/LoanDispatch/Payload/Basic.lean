import LoanDispatch.Value.Dictionary

/-!
The snapshot of an application that a delivery sends.  Its fields hold whatever the intake gave, so
they are values; `toValue` shows a snapshot as a record among values and `toDictionary` serialises
it.
-/

set_option autoImplicit false

namespace LoanDispatch

structure Application where
  id : Value
  name : Value
  ownerUserId : Value
  metadata : Value
  productType : Value
  lenderId : Value
  lenderProductId : Value
  requestedAmount : Value

structure Document where
  documentId : Value
  documentType : Value
  title : Value
  versionId : Value
  version : Value
  metadata : Value
  content : Value

structure Payload where
  application : Application
  documents : List Document
  submittedAt : Value

namespace Application

def fields (application : Application) : List (String × Value) :=
  [("id", application.id), ("name", application.name), ("owner_user_id", application.ownerUserId),
   ("metadata", application.metadata), ("product_type", application.productType),
   ("lender_id", application.lenderId), ("lender_product_id", application.lenderProductId),
   ("requested_amount", application.requestedAmount)]

def toValue (application : Application) : Value := .record .application application.fields

/-- The application with these fields; an absent one is null. -/
def ofFields (fields : List (String × Value)) : Application :=
  let get (name : String) := Value.getD name fields
  ⟨get "id", get "name", get "owner_user_id", get "metadata", get "product_type", get "lender_id",
    get "lender_product_id", get "requested_amount"⟩

end Application

namespace Document

def fields (document : Document) : List (String × Value) :=
  [("document_id", document.documentId), ("document_type", document.documentType),
   ("title", document.title), ("version_id", document.versionId), ("version", document.version),
   ("metadata", document.metadata), ("content", document.content)]

def toValue (document : Document) : Value := .record .document document.fields

/-- The document with these fields; an absent one is null. -/
def ofFields (fields : List (String × Value)) : Document :=
  let get (name : String) := Value.getD name fields
  ⟨get "document_id", get "document_type", get "title", get "version_id", get "version",
    get "metadata", get "content"⟩

end Document

namespace Payload

def fields (payload : Payload) : List (String × Value) :=
  [("application", payload.application.toValue),
   ("documents", .tuple (payload.documents.map Document.toValue)),
   ("submitted_at", payload.submittedAt)]

def toValue (payload : Payload) : Value := .record .payload payload.fields

def toDictionary (payload : Payload) : Except Misfit Value := payload.toValue.toDictionary

end Payload

end LoanDispatch
