import Mathlib.Data.List.Nodup
import Mathlib.Logic.Function.Basic

/-!
# Tokens that are used once

Tokens are numbered in the order in which they are issued.  A token waits in a slot until
it is used or revoked.
-/

structure TokenLedger where
  slot : Nat → Option Nat
  issued : Nat
  used : List Nat
  revoked : List Nat

namespace TokenLedger

open Function

def empty : TokenLedger where
  slot := fun _ => none
  issued := 0
  used := []
  revoked := []

/-- Issue a token into a slot. -/
def put (ledger : TokenLedger) (place : Nat) : TokenLedger where
  slot := update ledger.slot place (some ledger.issued)
  issued := ledger.issued + 1
  used := ledger.used
  revoked := ledger.revoked

/-- Empty a slot without using its token. -/
def revoke (ledger : TokenLedger) (place : Nat) : TokenLedger where
  slot := update ledger.slot place none
  issued := ledger.issued
  used := ledger.used
  revoked := ledger.revoked ++ (ledger.slot place).toList

def use (ledger : TokenLedger) (place : Nat) : TokenLedger where
  slot := update ledger.slot place none
  issued := ledger.issued
  used := ledger.used ++ (ledger.slot place).toList
  revoked := ledger.revoked

/-- A token that no longer waits. -/
def Settled (ledger : TokenLedger) (token : Nat) : Prop :=
  token ∈ ledger.used ∨ token ∈ ledger.revoked

structure Sound (ledger : TokenLedger) : Prop where
  waiting : ∀ place token, ledger.slot place = some token →
    token < ledger.issued ∧ ¬ ledger.Settled token
  apart : ∀ place other token, ledger.slot place = some token →
    ledger.slot other = some token → place = other
  settled : ∀ token, ledger.Settled token → token < ledger.issued
  once : ledger.used.Nodup
  accounted : ∀ token, token < ledger.issued →
    ledger.Settled token ∨ ∃ place, ledger.slot place = some token

theorem sound_empty : Sound empty where
  waiting := by
    intro place token waits
    cases waits
  apart := by
    intro place other token waits
    cases waits
  settled := by
    rintro token (used | revoked)
    · cases used
    · cases revoked
  once := List.nodup_nil
  accounted := by
    intro token issued
    exact absurd issued (Nat.not_lt_zero token)

variable {ledger : TokenLedger} {place other token : Nat}

theorem slot_put :
    (ledger.put place).slot other =
      if other = place then some ledger.issued else ledger.slot other :=
  update_apply ..

theorem slot_revoke :
    (ledger.revoke place).slot other = if other = place then none else ledger.slot other :=
  update_apply ..

theorem slot_use :
    (ledger.use place).slot other = if other = place then none else ledger.slot other :=
  update_apply ..

theorem settled_revoke :
    (ledger.revoke place).Settled token ↔
      ledger.Settled token ∨ ledger.slot place = some token := by
  simp only [Settled, revoke, List.mem_append, Option.mem_toList, or_assoc]

theorem settled_use :
    (ledger.use place).Settled token ↔ ledger.Settled token ∨ ledger.slot place = some token := by
  simp only [Settled, use, List.mem_append, Option.mem_toList, or_assoc]
  exact or_congr_right (or_comm ..)

section

variable (sound : Sound ledger)
include sound

/-- A token that is put into an empty slot waits there. -/
theorem Sound.put (free : ledger.slot place = none) : Sound (ledger.put place) where
  waiting := by
    intro other token waits
    rw [slot_put] at waits
    by_cases same : other = place
    · rw [if_pos same, Option.some.injEq] at waits
      rw [← waits]
      exact ⟨Nat.lt_succ_self _, fun settled => Nat.lt_irrefl _ (sound.settled _ settled)⟩
    · rw [if_neg same] at waits
      obtain ⟨issued, unsettled⟩ := sound.waiting other token waits
      exact ⟨Nat.lt_succ_of_lt issued, unsettled⟩
  apart := by
    intro first second token firstWaits secondWaits
    rw [slot_put] at firstWaits secondWaits
    by_cases isFirst : first = place
    · by_cases isSecond : second = place
      · rw [isFirst, isSecond]
      · rw [if_pos isFirst, Option.some.injEq] at firstWaits
        rw [if_neg isSecond, ← firstWaits] at secondWaits
        exact absurd (sound.waiting _ _ secondWaits).1 (Nat.lt_irrefl _)
    · rw [if_neg isFirst] at firstWaits
      by_cases isSecond : second = place
      · rw [if_pos isSecond, Option.some.injEq] at secondWaits
        rw [← secondWaits] at firstWaits
        exact absurd (sound.waiting _ _ firstWaits).1 (Nat.lt_irrefl _)
      · rw [if_neg isSecond] at secondWaits
        exact sound.apart first second token firstWaits secondWaits
  settled := fun token settled => Nat.lt_succ_of_lt (sound.settled token settled)
  once := sound.once
  accounted := by
    intro token issued
    rcases Nat.lt_succ_iff_lt_or_eq.mp issued with earlier | rfl
    · rcases sound.accounted token earlier with settled | ⟨other, waits⟩
      · exact .inl settled
      · have elsewhere : other ≠ place := by
          rintro rfl
          rw [free] at waits
          cases waits
        exact .inr ⟨other, by rw [slot_put, if_neg elsewhere, waits]⟩
    · exact .inr ⟨place, by rw [slot_put, if_pos rfl]⟩

/-- What emptying a slot keeps, where its token is settled. -/
theorem Sound.emptied {after : TokenLedger}
    (slots : ∀ other, after.slot other = if other = place then none else ledger.slot other)
    (issued : after.issued = ledger.issued)
    (settles : ∀ token, after.Settled token ↔ ledger.Settled token ∨ ledger.slot place = some token)
    (once : after.used.Nodup) : Sound after where
  waiting := by
    intro other token waits
    rw [slots] at waits
    by_cases same : other = place
    · rw [if_pos same] at waits
      cases waits
    · rw [if_neg same] at waits
      obtain ⟨known, unsettled⟩ := sound.waiting other token waits
      rw [issued, settles]
      refine ⟨known, ?_⟩
      rintro (settled | waitsThere)
      · exact unsettled settled
      · exact same (sound.apart other place token waits waitsThere)
  apart := by
    intro first second token firstWaits secondWaits
    rw [slots] at firstWaits secondWaits
    by_cases isFirst : first = place
    · rw [if_pos isFirst] at firstWaits
      cases firstWaits
    · by_cases isSecond : second = place
      · rw [if_pos isSecond] at secondWaits
        cases secondWaits
      · rw [if_neg isFirst] at firstWaits
        rw [if_neg isSecond] at secondWaits
        exact sound.apart first second token firstWaits secondWaits
  settled := by
    intro token settled
    rw [issued]
    rcases (settles token).mp settled with earlier | waited
    · exact sound.settled token earlier
    · exact (sound.waiting place token waited).1
  once := once
  accounted := by
    intro token known
    rw [issued] at known
    rcases sound.accounted token known with settled | ⟨other, waits⟩
    · exact .inl ((settles token).mpr (.inl settled))
    · by_cases same : other = place
      · rw [same] at waits
        exact .inl ((settles token).mpr (.inr waits))
      · exact .inr ⟨other, by rw [slots, if_neg same, waits]⟩

theorem Sound.revoke : Sound (ledger.revoke place) :=
  sound.emptied (fun _ => slot_revoke) rfl (fun _ => settled_revoke) sound.once

/-- A token is used for the first time when it is taken from its slot. -/
theorem Sound.use : Sound (ledger.use place) := by
  refine sound.emptied (fun _ => slot_use) rfl (fun _ => settled_use) ?_
  refine sound.once.append (Option.toList_nodup _) ?_
  intro token used waits
  rw [Option.mem_toList] at waits
  exact (sound.waiting place token waits).2 (.inl used)

end

end TokenLedger
