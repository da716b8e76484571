import Pagecraft.Calendar.Instant

/-! Instants from a count of seconds. -/
namespace Pagecraft

/-- The date so many days after the first of March of the year 0. -/
def Date.ofMarchDays (days : Int) : Date :=
  let era := days / 146097
  let dayOfEra := (days % 146097).toNat
  let yearOfEra := (dayOfEra - dayOfEra / 1460 + dayOfEra / 36524 - dayOfEra / 146096) / 365
  let dayOfYear := dayOfEra - (365 * yearOfEra + yearOfEra / 4 - yearOfEra / 100)
  let march := (5 * dayOfYear + 2) / 153
  let year := 400 * era + yearOfEra
  ⟨if march < 10 then year else year + 1, if march < 10 then march + 3 else march - 9,
    dayOfYear - (153 * march + 2) / 5 + 1⟩

def Instant.ofUnix (seconds : Int) (nano : Nat) : Instant :=
  ⟨Date.ofMarchDays (seconds / 86400 + 719468), (seconds % 86400).toNat, nano⟩

end Pagecraft
