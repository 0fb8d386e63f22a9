import CandleAlerts.Proofs.DispatchLaws
import CandleAlerts.Webhook.Verifier

/-!
How long claims last.

Whatever is claimed, a claim lasts until it expires and no longer: claiming other keys, and claiming
the same key once more, leave it as it is. What can still be told from the claims is the part of
them that has not expired.
-/

namespace CandleAlerts

/-! ## Keys -/

theorem Webhook.claimKey_inj {first second : String} :
    Webhook.claimKey first = Webhook.claimKey second ↔ first = second := by
  simp [Webhook.claimKey, String.ext_iff]

namespace Claims

variable {first second : Claims} {key : String} {lifetime earlier later expiry : Nat}

/-- What has not expired by some time had not expired before. -/
theorem alive_alive (claims : Claims) (ordered : earlier ≤ later) :
    (claims.alive earlier).alive later = claims.alive later := by
  simp only [alive, mk.injEq]
  apply Table.eq_of_get?
  intro key
  simp only [Table.get?_filter]
  cases claims.expiries.get? key with
  | none => rfl
  | some expiry =>
      by_cases lasts : later < expiry
      · have lasted : earlier < expiry := Nat.lt_of_le_of_lt ordered lasts
        simp [Option.filter, lasts, lasted]
      · by_cases lasted : earlier < expiry <;> simp [Option.filter, lasts, lasted]

/-- Claims that are alike in what has not expired stay alike. -/
theorem alive_eq_mono (same : first.alive earlier = second.alive earlier)
    (ordered : earlier ≤ later) : first.alive later = second.alive later := by
  rw [← first.alive_alive ordered, same, second.alive_alive ordered]

theorem holds_eq_of_alive (same : first.alive earlier = second.alive earlier)
    (ordered : earlier ≤ later) : first.holds key later = second.holds key later := by
  rw [holds, holds, alive_eq_mono same ordered]

/-- What comes of a claim depends on nothing but what has not expired. -/
theorem claim_eq_of_alive (same : first.alive earlier = second.alive earlier) :
    first.claim key lifetime earlier = second.claim key lifetime earlier :=
  congrArg
    (fun left : Claims =>
      if left.expiries.contains key then (ClaimOutcome.taken, left)
      else if earlier + lifetime < clockEnd then
        (.claimed, { expiries := left.expiries.insert key (earlier + lifetime) })
      else (.crashed, left))
    same

theorem get?_alive_of_lasting {claims : Claims}
    (found : claims.expiries.get? key = some expiry) (lasts : earlier < expiry) :
    (claims.alive earlier).expiries.get? key = some expiry := by
  simp [alive, Table.get?_filter, found, Option.filter, lasts]

/-- A key that is free stays free as long as nobody claims it. -/
theorem holds_of_later {claims : Claims} (ordered : earlier ≤ later)
    (held : claims.holds key later = true) : claims.holds key earlier = true := by
  rcases (claims.holds_iff key later).1 held with ⟨expiry, found, lasts⟩
  exact (claims.holds_iff key earlier).2 ⟨expiry, found, Nat.lt_of_le_of_lt ordered lasts⟩

/-- When a free key has been claimed, it is held until the claim expires, and the others are held as
before. -/
theorem holds_claimed (claims : Claims) {other : String} (free : claims.holds key earlier = false)
    (ordered : earlier ≤ later) :
    ({ expiries := (claims.alive earlier).expiries.insert key expiry } : Claims).holds other later =
        true ↔
      claims.holds other later = true ∨ key = other ∧ later < expiry := by
  have alive : (claims.alive earlier).holds other later = claims.holds other later := by
    rw [holds, holds, claims.alive_alive ordered]
  rw [holds_iff, Table.get?_insert]
  by_cases same : key = other
  · subst same
    have notHeld : claims.holds key later ≠ true := by
      intro held
      rw [holds_of_later ordered held] at free
      cases free
    simp [notHeld]
  · rw [if_neg same, ← holds_iff, alive]
    simp [same]

/-- Whether every claim that has not expired by a time is kept with its expiry. -/
def Keeps (now : Nat) (before after : Claims) : Prop :=
  ∀ key expiry, before.expiries.get? key = some expiry → now < expiry →
    after.expiries.get? key = some expiry

namespace Keeps

variable {now : Nat}

theorem refl (claims : Claims) : Keeps now claims claims :=
  fun _ _ found _ => found

theorem alive (claims : Claims) : Keeps now claims (claims.alive now) :=
  fun _ _ found lasts => get?_alive_of_lasting found lasts

theorem of_alive {before after : Claims} (same : before.alive now = after.alive now) :
    Keeps now before after := by
  intro key expiry found lasts
  have kept := get?_alive_of_lasting found lasts
  rw [same] at kept
  simp only [Claims.alive, Table.get?_filter, Option.filter_eq_some_iff] at kept
  exact kept.1

/-- A key that is claimed was free, so no claim that lasts is replaced. -/
theorem claimed (claims : Claims) {key : String} (free : claims.holds key now = false)
    (expiry : Nat) :
    Keeps now claims { expiries := (claims.alive now).expiries.insert key expiry } := by
  intro other ending found lasts
  have different : key ≠ other := by
    intro same
    have held := (claims.holds_iff other now).2 ⟨ending, found, lasts⟩
    rw [← same, free] at held
    cases held
  exact (Table.get?_insert_of_ne _ _ different).trans (get?_alive_of_lasting found lasts)

end Keeps

end Claims

end CandleAlerts
