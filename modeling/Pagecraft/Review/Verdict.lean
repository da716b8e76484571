import Pagecraft.Json.Basic

/-! What a review of content says. -/
namespace Pagecraft.Review

inductive Severity where
  | error
  | warning
deriving DecidableEq, Repr

def Severity.name : Severity → Text
  | .error => "error".toList
  | .warning => "warning".toList

structure Violation where
  rule : Text
  severity : Severity
  message : Text
  path : Option Text
  remediation : List Text
deriving DecidableEq, Repr

def Violation.toJson (violation : Violation) : Json :=
  .record [("rule", .string violation.rule), ("severity", .string violation.severity.name),
    ("message", .string violation.message), ("path", .nullable .string violation.path),
    ("remediation", .strings violation.remediation)]

structure Verdict where
  violations : List Violation
deriving DecidableEq, Repr

namespace Verdict

def valid (verdict : Verdict) : Bool :=
  verdict.violations.all fun violation => violation.severity ≠ .error

def messages (verdict : Verdict) : List Text :=
  verdict.violations.map fun violation => violation.rule ++ [':', ' '] ++ violation.message

def toJson (verdict : Verdict) : Json :=
  .record [("valid", .bool verdict.valid),
    ("violations", .array (verdict.violations.map Violation.toJson))]

end Verdict
end Pagecraft.Review
