/-!
The three ways in which an application reaches a lender.
-/

set_option autoImplicit false

namespace LoanDispatch

inductive Channel where
  | email
  | api
  | googleSheet
  deriving DecidableEq

namespace Channel

def code : Channel → String
  | .email => "email"
  | .api => "api"
  | .googleSheet => "google_sheet"

def memberName : Channel → String
  | .email => "EMAIL"
  | .api => "API"
  | .googleSheet => "GOOGLE_SHEET"

def all : List Channel := [.email, .api, .googleSheet]

def ofCode? (code : String) : Option Channel := all.find? fun channel => channel.code == code

theorem ofCode?_code (channel : Channel) : ofCode? channel.code = some channel := by
  cases channel <;> decide

theorem code_of_ofCode? {code : String} {channel : Channel} (found : ofCode? code = some channel) :
    channel.code = code := by
  have test := List.find?_some found
  simpa using test

end Channel

end LoanDispatch
