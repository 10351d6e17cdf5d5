import Mathlib.Data.List.Perm.Subperm
import TypeCatalog.Identities

/-!
# Claimed keys are new

The variants of a key differ, so among one more of them than there are
claimed keys one is free.  A search that tries them one after the other
therefore ends, and the bound on the attempts of a claim never cuts it off.
Keys that are claimed one after the other differ from each other, and each has
the least ordinal that was left for it, though a key with an ordinal may be
the same as one that is asked for as it stands.
-/

namespace TypeCatalog

open Text (CodeText CodePoint)

namespace UniqueKeys

/-! ## Variants -/

def ordinalMark (key : CodeText) : CodeText :=
  if key.getLast? == some (.scalar '$') then "" else "$"

def numbered (key : CodeText) (ordinal : Nat) : CodeText :=
  key ++ ordinalMark key ++ Nat.repr ordinal

theorem variant_zero (key : CodeText) : variant key 0 = key :=
  rfl

theorem variant_of_pos (key : CodeText) {ordinal : Nat} (positive : 0 < ordinal) :
    variant key ordinal = numbered key ordinal :=
  if_neg (Nat.ne_of_gt positive)

theorem variant_succ (key : CodeText) (ordinal : Nat) :
    variant key (ordinal + 1) =
      key ++ (ordinalMark key ++ CodeText.ofChars (Nat.toDigits 10 (ordinal + 1))) := by
  rw [variant_of_pos key (Nat.succ_pos ordinal), numbered, CodeText.ofString, Nat.toList_repr,
    List.append_assoc]

theorem ofChars_injective {first second : List Char}
    (same : CodeText.ofChars first = CodeText.ofChars second) : first = second :=
  List.map_injective_iff.mpr (fun _ _ same => CodePoint.scalar.inj same) same

theorem variant_injective (key : CodeText) {first second : Nat}
    (same : variant key first = variant key second) : first = second := by
  have longer (ordinal : Nat) : variant key (ordinal + 1) ≠ key := by
    rw [variant_succ]
    intro same
    simp [CodeText.ofChars, Nat.toDigits_ne_nil] at same
  cases first with
  | zero =>
      cases second with
      | zero => rfl
      | succ second => exact absurd same.symm (longer second)
  | succ first =>
      cases second with
      | zero => exact absurd same (longer first)
      | succ second =>
          rw [variant_succ, variant_succ, List.append_cancel_left_eq,
            List.append_cancel_left_eq] at same
          have digits := congrArg (fun chars => Nat.ofDigitChars 10 chars 0)
            (ofChars_injective same)
          simpa using digits

/-! ## Searches -/

variable (scope : UniqueKeys) (key : CodeText)

theorem le_length_of_taken {count : Nat}
    (taken : ∀ ordinal < count, variant key ordinal ∈ scope.claimed) :
    count ≤ scope.claimed.length := by
  have different : ((List.range count).map (variant key)).Nodup :=
    List.Pairwise.map _ (fun _ _ apart same => apart (variant_injective key same))
      List.nodup_range
  have inside : (List.range count).map (variant key) ⊆ scope.claimed := by
    intro variant mem
    obtain ⟨ordinal, below, rfl⟩ := List.mem_map.mp mem
    exact taken ordinal (List.mem_range.mp below)
  simpa using (List.subperm_of_subset different inside).length_le

/-- A search for a free variant of a key, whatever number of attempts it takes: it goes on from
an ordinal whose variant is taken, and ends at one whose variant is free. -/
inductive SearchEnds : Nat → Nat → Prop
  | free {ordinal : Nat} (new : scope.contains (variant key ordinal) = false) :
      SearchEnds ordinal ordinal
  | next {ordinal last : Nat} (taken : scope.contains (variant key ordinal) = true)
      (rest : SearchEnds (ordinal + 1) last) : SearchEnds ordinal last

variable {scope key}

theorem SearchEnds.notMem {first last : Nat} (ends : scope.SearchEnds key first last) :
    variant key last ∉ scope.claimed := by
  induction ends with
  | free new => simpa [contains] using new
  | next taken rest ih => exact ih

theorem SearchEnds.mem {first last : Nat} (ends : scope.SearchEnds key first last) {ordinal : Nat}
    (low : first ≤ ordinal) (high : ordinal < last) : variant key ordinal ∈ scope.claimed := by
  induction ends with
  | free new => omega
  | @next start last taken rest ih =>
      rcases Nat.lt_or_ge start ordinal with above | below
      · exact ih above high
      · rw [Nat.le_antisymm below low]
        exact List.contains_iff_mem.mp taken

variable (scope key)

theorem searchEnds_firstFree (attempts start : Nat) :
    scope.SearchEnds key start (scope.firstFree key attempts start) ∨
      ∀ ordinal, start ≤ ordinal → ordinal < start + attempts →
        variant key ordinal ∈ scope.claimed := by
  induction attempts generalizing start with
  | zero =>
      right
      intro ordinal low high
      omega
  | succ attempts ih =>
      rw [firstFree]
      split
      · rename_i taken
        rcases ih (start + 1) with ends | all
        · exact .inl (.next taken ends)
        · right
          intro ordinal low high
          rcases Nat.lt_or_ge start ordinal with above | below
          · exact all ordinal above (by omega)
          · rw [Nat.le_antisymm below low]
            exact List.contains_iff_mem.mp taken
      · rename_i free
        exact .inl (.free (Bool.eq_false_iff.mpr free))

/-! ## Claims -/

theorem claim_searchEnds :
    ∃ last, last ≤ scope.claimed.length ∧ scope.SearchEnds key 0 last ∧
      (scope.claim key).1 = variant key last := by
  rcases scope.searchEnds_firstFree key (scope.claimed.length + 1) 0 with ends | all
  · refine ⟨_, ?_, ends, rfl⟩
    exact scope.le_length_of_taken key fun ordinal below => ends.mem (Nat.zero_le _) below
  · -- One more variants than there are claimed keys cannot all be among them.
    have fits : scope.claimed.length + 1 ≤ scope.claimed.length :=
      scope.le_length_of_taken key fun ordinal below => all ordinal (Nat.zero_le _) (by omega)
    exact absurd fits (Nat.not_succ_le_self _)

theorem claim_notMem : (scope.claim key).1 ∉ scope.claimed := by
  obtain ⟨last, -, ends, claim_eq⟩ := scope.claim_searchEnds key
  rw [claim_eq]
  exact ends.notMem

theorem claim_claimed : (scope.claim key).2.claimed = (scope.claim key).1 :: scope.claimed :=
  rfl

theorem nodup_claim {scope : UniqueKeys} (different : scope.claimed.Nodup) (key : CodeText) :
    (scope.claim key).2.claimed.Nodup := by
  rw [claim_claimed]
  exact List.nodup_cons.mpr ⟨scope.claim_notMem key, different⟩

/-- What a key is claimed as beside the keys that are taken: itself if it is new, and otherwise
the key with the least positive ordinal that makes it new. -/
inductive ClaimedAs (taken : List CodeText) (key : CodeText) : CodeText → Prop
  | plain (new : key ∉ taken) : ClaimedAs taken key key
  | withOrdinal {ordinal : Nat} (used : key ∈ taken) (positive : 0 < ordinal)
      (new : numbered key ordinal ∉ taken)
      (least : ∀ lower, 0 < lower → lower < ordinal → numbered key lower ∈ taken) :
      ClaimedAs taken key (numbered key ordinal)

theorem SearchEnds.claimedAs {scope : UniqueKeys} {key : CodeText} {last : Nat}
    (ends : scope.SearchEnds key 0 last) {taken : List CodeText}
    (same : ∀ other, other ∈ scope.claimed ↔ other ∈ taken) :
    ClaimedAs taken key (variant key last) := by
  have new := mt (same _).mpr ends.notMem
  rcases Nat.eq_zero_or_pos last with rfl | positive
  · exact .plain new
  · rw [variant_of_pos key positive] at new ⊢
    refine .withOrdinal ((same _).mp (ends.mem (Nat.le_refl 0) positive)) positive new ?_
    intro lower above below
    rw [← variant_of_pos key above]
    exact (same _).mp (ends.mem (Nat.le_of_lt above) below)

/-! ## Slots -/

def IsSlotKey (key : CodeText) : Prop :=
  ∃ c, key.getLast? = some (.scalar c) ∧ (c = '$' ∨ c.isDigit = true)

theorem isSlotKey_variant (name : CodeText) (ordinal : Nat) :
    IsSlotKey (variant (name ++ "$") ordinal) := by
  cases ordinal with
  | zero =>
      rw [variant_zero]
      exact ⟨'$', List.getLast?_concat, .inl rfl⟩
  | succ ordinal =>
      rw [variant_succ]
      have shown := @Nat.toDigits_ne_nil (ordinal + 1) 10
      obtain ⟨front, last, digits_eq⟩ := (List.eq_nil_or_concat _).resolve_left shown
      have digit := Nat.isDigit_of_mem_toDigits (by decide) (by decide)
        (show last ∈ Nat.toDigits 10 (ordinal + 1) by simp [digits_eq])
      refine ⟨last, ?_, .inr digit⟩
      rw [digits_eq]
      simp [CodeText.ofChars]

theorem isSlotKey_claim (name : CodeText) : IsSlotKey (scope.claim (name ++ "$")).1 :=
  isSlotKey_variant name _

/-! ## Claims one after the other -/

/-- Claims keys one after the other; gives the keys as they are claimed, and the scope after
them. -/
def claimAll (scope : UniqueKeys) : List CodeText → List CodeText × UniqueKeys
  | [] => ([], scope)
  | key :: rest =>
    let (claimedKey, middle) := scope.claim key
    let (others, last) := middle.claimAll rest
    (claimedKey :: others, last)

variable (keys : List CodeText)

theorem length_claimAll : (scope.claimAll keys).1.length = keys.length := by
  induction keys generalizing scope with
  | nil => rfl
  | cons key rest ih => exact congrArg (· + 1) (ih _)

theorem claimed_claimAll :
    (scope.claimAll keys).2.claimed = (scope.claimAll keys).1.reverse ++ scope.claimed := by
  induction keys generalizing scope with
  | nil => rfl
  | cons key rest ih =>
      change ((scope.claim key).2.claimAll rest).2.claimed = _
      rw [ih, claim_claimed]
      simp [claimAll]

theorem nodup_claimAll {scope : UniqueKeys} (different : scope.claimed.Nodup) :
    (scope.claimAll keys).2.claimed.Nodup := by
  induction keys generalizing scope with
  | nil => exact different
  | cons key rest ih => exact ih (nodup_claim different key)

theorem claimAll_take (count : Nat) :
    (scope.claimAll (keys.take count)).1 = (scope.claimAll keys).1.take count := by
  induction keys generalizing scope count with
  | nil => simp [claimAll]
  | cons key rest ih =>
      cases count with
      | zero => rfl
      | succ count => exact congrArg ((scope.claim key).1 :: ·) (ih _ count)

theorem getElem?_claimAll (index : Fin keys.length) :
    (scope.claimAll keys).1[index.val]? =
      some ((scope.claimAll (keys.take index)).2.claim keys[index]).1 := by
  induction keys generalizing scope with
  | nil => exact index.elim0
  | cons key rest ih =>
      cases index using Fin.cases with
      | zero => rfl
      | succ index => exact ih (scope.claim key).2 index

/-- Keys may be claimed in any order, whatever marks and ordinals they have of their own.  The
claimed keys differ from each other, and the scope contains them and no others.  The search of
each claim ends, with no ordinal above the number of claims before it, and gives the key itself if
it is new, and otherwise the key with the least positive ordinal that makes it new. -/
theorem claimAll_distinct_and_least (keys : List CodeText) :
    let ran := claimAll {} keys
    ran.1.length = keys.length ∧ ran.1.Nodup ∧
      (∀ key, ran.2.contains key = true ↔ key ∈ ran.1) ∧
      ∀ index : Fin keys.length,
        let before := claimAll {} (keys.take index)
        before.1 = ran.1.take index ∧
          ∃ last : Nat, last ≤ index ∧ before.2.SearchEnds keys[index] 0 last ∧
            ran.1[index.val]? = some (variant keys[index] last) ∧
            ClaimedAs before.1 keys[index] (variant keys[index] last) := by
  have claimed_eq (asked : List CodeText) :
      (claimAll {} asked).2.claimed = (claimAll {} asked).1.reverse := by
    rw [claimed_claimAll, List.append_nil]
  refine ⟨length_claimAll {} keys, ?_, fun key => ?_,
    fun index => ⟨claimAll_take {} keys index, ?_⟩⟩
  · rw [← (List.reverse_perm _).nodup_iff, ← claimed_eq]
    exact nodup_claimAll keys List.nodup_nil
  · rw [← List.mem_reverse, ← claimed_eq]
    exact List.contains_iff_mem
  · let before := claimAll {} (keys.take index)
    have count_eq : before.2.claimed.length = index := by
      rw [claimed_eq, List.length_reverse, length_claimAll,
        List.length_take_of_le (Nat.le_of_lt index.isLt)]
    obtain ⟨last, bound, ends, claim_eq⟩ := before.2.claim_searchEnds keys[index]
    refine ⟨last, count_eq ▸ bound, ends, ?_, ends.claimedAs fun other => ?_⟩
    · rw [getElem?_claimAll, claim_eq]
    · rw [claimed_eq, List.mem_reverse]

/-- An ordinal is passed over if the key with it has been asked for already. -/
example : (claimAll {} ["a", "a$1", "a", "a$1", "x$", "x$"]).1 =
    ["a", "a$1", "a$2", "a$1$1", "x$", "x$1"] := by
  decide +kernel

end UniqueKeys

end TypeCatalog
