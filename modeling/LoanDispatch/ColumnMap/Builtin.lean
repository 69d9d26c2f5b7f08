import LoanDispatch.ColumnMap.Basic

/-!
The two column maps that are always registered: the merchant ledger, and the merchant ledger with
the first attached document.
-/

set_option autoImplicit false

namespace LoanDispatch.ColumnMap

def merchantColumns : List Column :=
  [⟨"Application ID", identifierPath⟩,
   ⟨"Submitted At", "submitted_at"⟩,
   ⟨"Applicant First Name", "application.metadata.applicant.firstName"⟩,
   ⟨"Applicant Last Name", "application.metadata.applicant.lastName"⟩,
   ⟨"Applicant Email", "application.metadata.applicant.email"⟩,
   ⟨"Applicant Phone", "application.metadata.applicant.phone"⟩,
   ⟨"Business Legal Name", "application.metadata.business.legalName"⟩,
   ⟨"Business Tax ID", "application.metadata.business.taxId"⟩,
   ⟨"Business Entity Type", "application.metadata.business.entityType"⟩,
   ⟨"Business Address Line 1", "application.metadata.business.address.line1"⟩,
   ⟨"Business City", "application.metadata.business.address.city"⟩,
   ⟨"Business State", "application.metadata.business.address.state"⟩,
   ⟨"Business Postal Code", "application.metadata.business.address.postalCode"⟩,
   ⟨"Business Country", "application.metadata.business.address.country"⟩,
   ⟨"Requested Amount", "application.requested_amount"⟩,
   ⟨"Product Type", "application.product_type"⟩,
   ⟨"Requested Term", "application.metadata.financials.term"⟩,
   ⟨"Annual Revenue", "application.metadata.financials.annualRevenue"⟩,
   ⟨"Monthly Revenue", "application.metadata.financials.monthlyRevenue"⟩,
   ⟨"Banking Summary", "application.metadata.financials.bankingSummary"⟩]

def documentColumns : List Column :=
  [⟨"Primary Document Type", "documents.0.document_type"⟩,
   ⟨"Primary Document Title", "documents.0.title"⟩,
   ⟨"Primary Document Version", "documents.0.version"⟩]

def merchant : ColumnMap := ⟨"v1", merchantColumns⟩

def merchantWithDocument : ColumnMap := ⟨"v2", merchantColumns ++ documentColumns⟩

end LoanDispatch.ColumnMap
