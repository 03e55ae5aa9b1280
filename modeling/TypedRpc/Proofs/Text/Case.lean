import TypedRpc.Proofs.Grouping
import TypedRpc.Text.Case

/-!
# What letter case leaves alone

The forms of a letter are letters.  So a mark that separates or disfigures names, such as an
underscore, is never the form of another character; the tables are checked for that run by run,
since a run moves all its letters by one distance.

* `CaseRun.misses`, `shiftCase_ne`: marks that no run leads to.
* `eq_of_mem_upperChar`, `eq_of_mem_lowerChar`: a mark in a form of a character is the character.
* `mem_forms_of_mem_nameMarks`: a mark is among its own forms.
* `CaseRun.clears`, `shiftCase_shiftCase`: runs that move no letter a second time.
* `exists_cons_lowerChar`: a lower form begins with a character that is its own lower form.
* `caseForms_of_ascii`, `lower_of_ascii`: the forms of the first 128 characters are those of the
  core library, one character each, and no letter needs its surroundings.
-/

namespace TypedRpc
namespace Text

/-- Whether the letters of the run all move above or all move below a code point. -/
def CaseRun.misses (run : CaseRun) (n : Nat) : Bool :=
  (n : Int) < run.first + run.shift || run.last + run.shift < (n : Int)

/-- The letters of a run lie between its ends. -/
theorem CaseRun.within_of_moves {run : CaseRun} {n : Nat} (moved : run.moves n) :
    run.first ≤ n ∧ n ≤ run.last := by
  simp only [moves, Bool.and_eq_true, decide_eq_true_eq] at moved
  exact moved.1

/-- No letter moves to a code point that its run misses. -/
theorem CaseRun.ne_of_misses {run : CaseRun} {n k : Nat} (missed : run.misses n) (positive : 0 < n)
    (moved : run.moves k) : (k + run.shift).toNat ≠ n := by
  have within := within_of_moves moved
  have apart : (n : Int) < run.first + run.shift ∨ run.last + run.shift < (n : Int) := by
    simpa [misses] using missed
  omega

/-- A character other than the null character is made from its own code point only. -/
theorem eq_toNat_of_ofNat_eq {n : Nat} {mark : Char} (made : Char.ofNat n = mark)
    (positive : 0 < mark.toNat) : n = mark.toNat := by
  unfold Char.ofNat at made
  by_cases valid : n.isValidChar
  · rw [dif_pos valid] at made
    rw [← made]
    rfl
  · rw [dif_neg valid] at made
    rw [← made] at positive
    exact absurd positive (Nat.lt_irrefl 0)

/-- A character that no run moves stays. -/
theorem shiftCase_of_unmoved {runs : List CaseRun} {c : Char}
    (unmoved : ∀ run ∈ runs, ¬ run.moves c.toNat) : shiftCase runs c = c := by
  have none : runs.find? (·.moves c.toNat) = none := List.find?_eq_none.mpr unmoved
  rw [shiftCase, none]

/-- A character stays, or one of the runs moves it. -/
theorem shiftCase_cases (runs : List CaseRun) (c : Char) :
    shiftCase runs c = c ∨
      ∃ run ∈ runs, run.moves c.toNat ∧
        shiftCase runs c = Char.ofNat (c.toNat + run.shift).toNat := by
  cases found : runs.find? (·.moves c.toNat) with
  | none => exact .inl (shiftCase_of_unmoved (List.find?_eq_none.mp found))
  | some run =>
    have moved := List.find?_some found
    exact .inr ⟨run, List.mem_of_find?_eq_some found, moved, by rw [shiftCase, found]⟩

/-- A character moves to no mark that the runs miss. -/
theorem shiftCase_ne {runs : List CaseRun} {c mark : Char} (positive : 0 < mark.toNat)
    (missed : runs.all (·.misses mark.toNat)) (other : c ≠ mark) : shiftCase runs c ≠ mark := by
  intro made
  rcases shiftCase_cases runs c with same | ⟨run, listed, moved, shifted⟩
  · exact other (same.symm.trans made)
  · have misses := List.all_eq_true.mp missed run listed
    exact run.ne_of_misses misses positive moved
      (eq_toNat_of_ofNat_eq (shifted.symm.trans made) positive)

/-- Whether the tables lead no other character to a mark. -/
def unmade (expansions : List (Nat × List Nat)) (runs : List CaseRun) (mark : Char) : Bool :=
  expansions.all (fun entry => !(entry.2.map Char.ofNat).contains mark) &&
    runs.all (·.misses mark.toNat)

/-- A mark in a form of a character is the character itself. -/
theorem eq_of_mem_caseForm {expansions : List (Nat × List Nat)} {runs : List CaseRun}
    {c mark : Char} (positive : 0 < mark.toNat) (safe : unmade expansions runs mark)
    (listed : mark ∈ caseForm expansions runs c) : c = mark := by
  rw [unmade, Bool.and_eq_true] at safe
  obtain ⟨unlisted, missed⟩ := safe
  unfold caseForm at listed
  cases found : expansions.lookup c.toNat with
  | some codes =>
    rw [found] at listed
    have free := List.all_eq_true.mp unlisted _ (mem_of_lookup_eq_some found)
    exact absurd listed (by simpa using free)
  | none =>
    rw [found] at listed
    by_contra other
    exact shiftCase_ne positive missed other (List.mem_singleton.mp listed).symm

/-- The marks that separate the words of a name or may not stand in one. -/
def nameMarks : List Char := ['_', '-', '?']

theorem toNat_pos_of_mem_nameMarks {mark : Char} (isMark : mark ∈ nameMarks) : 0 < mark.toNat := by
  have positive : nameMarks.all (fun mark => 0 < mark.toNat) := by decide
  exact of_decide_eq_true (List.all_eq_true.mp positive mark isMark)

/-- A mark in the upper form of a character is the character itself. -/
theorem eq_of_mem_upperChar {c mark : Char} (isMark : mark ∈ nameMarks)
    (listed : mark ∈ upperChar c) : c = mark := by
  have safe : nameMarks.all (unmade upperExpansions upperRuns) := by decide +kernel
  exact eq_of_mem_caseForm (toNat_pos_of_mem_nameMarks isMark)
    (List.all_eq_true.mp safe mark isMark) listed

/-- A mark in the lower form of a character is the character itself. -/
theorem eq_of_mem_lowerChar {c mark : Char} (isMark : mark ∈ nameMarks)
    (listed : mark ∈ lowerChar c) : c = mark := by
  have safe : nameMarks.all (unmade lowerExpansions lowerRuns) := by decide +kernel
  exact eq_of_mem_caseForm (toNat_pos_of_mem_nameMarks isMark)
    (List.all_eq_true.mp safe mark isMark) listed

/-- A mark is among its own forms. -/
theorem mem_forms_of_mem_nameMarks {mark : Char} (isMark : mark ∈ nameMarks) :
    mark ∈ upperChar mark ∧ mark ∈ lowerChar mark := by
  have kept : nameMarks.all fun mark =>
      (upperChar mark).contains mark && (lowerChar mark).contains mark := by
    decide +kernel
  simpa using List.all_eq_true.mp kept mark isMark

/-! ## Lower forms once more -/

/-- The code points that a run moves, from its first to its last letter. -/
def CaseRun.letters (run : CaseRun) : List Nat :=
  List.range' run.first ((run.last - run.first) / run.stride + 1) run.stride

theorem CaseRun.mem_letters {run : CaseRun} {n : Nat} (moved : run.moves n) : n ∈ run.letters := by
  obtain ⟨above, below⟩ := within_of_moves moved
  have stepped : (n - run.first) % run.stride = 0 := by
    simp only [moves, Bool.and_eq_true, beq_iff_eq] at moved
    exact moved.2
  have steps : run.stride * ((n - run.first) / run.stride) = n - run.first :=
    Nat.mul_div_cancel' (Nat.dvd_of_mod_eq_zero stepped)
  have fewer : (n - run.first) / run.stride ≤ (run.last - run.first) / run.stride :=
    Nat.div_le_div_right (Nat.sub_le_sub_right below _)
  exact List.mem_range'.mpr ⟨_, Nat.lt_succ_of_le fewer, by omega⟩

/-- Whether no letter of the run moves to one that another run moves.  The letters are looked at one
by one only where the two runs meet, since most of them lie far apart. -/
def CaseRun.clears (run other : CaseRun) : Bool :=
  Nat.blt (run.last + run.shift).toNat other.first ||
    Nat.blt other.last (run.first + run.shift).toNat ||
    run.letters.all fun n => !other.moves (n + run.shift).toNat

theorem CaseRun.not_moves_of_clears {run other : CaseRun} {n : Nat} (clear : run.clears other)
    (moved : run.moves n) : ¬ other.moves (n + run.shift).toNat := by
  intro again
  have within := within_of_moves moved
  have met := within_of_moves again
  simp only [clears, Bool.or_eq_true, Nat.blt_eq] at clear
  rcases clear with (below | above) | each
  · omega
  · omega
  · have still := List.all_eq_true.mp each n (mem_letters moved)
    rw [again] at still
    exact Bool.false_ne_true still

/-- **Where no run moves a letter onto another one, no letter moves a second time.** -/
theorem shiftCase_shiftCase {runs : List CaseRun}
    (once : runs.all fun run => !run.moves 0 && runs.all run.clears) (c : Char) :
    shiftCase runs (shiftCase runs c) = shiftCase runs c := by
  have checked : ∀ run ∈ runs, ¬ run.moves 0 ∧ ∀ other ∈ runs, run.clears other := by
    simpa using once
  rcases shiftCase_cases runs c with same | ⟨run, listed, moved, shifted⟩
  · rw [same, same]
  · refine shiftCase_of_unmoved fun other isRun => ?_
    rcases Nat.eq_zero_or_pos (shiftCase runs c).toNat with null | positive
    · -- a code point of no character is read as the null character
      rw [null]
      exact (checked other isRun).1
    · rw [← eq_toNat_of_ofNat_eq shifted.symm positive]
      exact run.not_moves_of_clears ((checked run listed).2 other isRun) moved

/-- A character that moves to no expanded one has no expansion afterwards either. -/
theorem lookup_shiftCase {expansions : List (Nat × List Nat)} {runs : List CaseRun} {c : Char}
    (missed : expansions.all fun entry => 0 < entry.1 && runs.all (·.misses entry.1))
    (single : expansions.lookup c.toNat = none) :
    expansions.lookup (shiftCase runs c).toNat = none := by
  cases found : expansions.lookup (shiftCase runs c).toNat with
  | none => rfl
  | some codes =>
    have apart := List.all_eq_true.mp missed _ (mem_of_lookup_eq_some found)
    rw [Bool.and_eq_true, decide_eq_true_eq] at apart
    have other : c ≠ shiftCase runs c := by
      intro same
      rw [← same, single] at found
      cases found
    exact absurd rfl (shiftCase_ne apart.1 apart.2 other)

/-- **A lower form begins with a character that is its own lower form.** -/
theorem exists_cons_lowerChar (c : Char) :
    ∃ d rest, lowerChar c = d :: rest ∧ lowerChar d = [d] := by
  cases found : lowerExpansions.lookup c.toNat with
  | some codes =>
    have each : lowerExpansions.all fun entry =>
        (entry.2.map Char.ofNat).head?.any fun d => lowerChar d == [d] := by
      decide +kernel
    have checked := List.all_eq_true.mp each _ (mem_of_lookup_eq_some found)
    obtain ⟨d, first, settled⟩ := (Option.any_eq_true _ _).mp checked
    obtain ⟨rest, form⟩ := List.head?_eq_some_iff.mp first
    refine ⟨d, rest, ?_, eq_of_beq settled⟩
    rw [lowerChar, caseForm, found]
    exact form
  | none =>
    have missed : lowerExpansions.all fun entry =>
        0 < entry.1 && lowerRuns.all (·.misses entry.1) := by
      decide +kernel
    have once : lowerRuns.all fun run => !run.moves 0 && lowerRuns.all run.clears := by
      decide +kernel
    refine ⟨shiftCase lowerRuns c, [], ?_, ?_⟩
    · rw [lowerChar, caseForm, found]
    · rw [lowerChar, caseForm, lookup_shiftCase missed found]
      dsimp only
      rw [shiftCase_shiftCase once]

/-! ## The first 128 characters -/

/-- What holds of the first 128 characters, one by one. -/
theorem forall_ascii {P : Char → Prop} (each : ∀ n < 128, P (Char.ofNat n)) {c : Char}
    (ascii : c.toNat < 128) : P c := by
  have here := each c.toNat ascii
  rwa [Char.ofNat_toNat] at here

/-- A run that begins later does not move a character. -/
theorem shiftCase_filter {bound : Nat} {c : Char} (before : c.toNat < bound) (runs : List CaseRun) :
    shiftCase (runs.filter (·.first < bound)) c = shiftCase runs c := by
  have early (run : CaseRun) :
      decide (decide (run.first < bound) = true ∧ run.moves c.toNat = true) =
        run.moves c.toNat := by
    rw [Bool.eq_iff_iff, decide_eq_true_eq]
    exact and_iff_right_of_imp fun moved =>
      decide_eq_true (Nat.lt_of_le_of_lt (run.within_of_moves moved).1 before)
  rw [shiftCase, shiftCase, List.find?_filter]
  simp only [early]

/-- Without expansions of the first 128 characters, only the runs that begin among them matter. -/
theorem caseForm_of_ascii {expansions : List (Nat × List Nat)} {runs : List CaseRun} {c : Char}
    (later : expansions.all (128 ≤ ·.1)) (ascii : c.toNat < 128) :
    caseForm expansions runs c = [shiftCase (runs.filter (·.first < 128)) c] := by
  have single : expansions.lookup c.toNat = none := by
    refine List.lookup_eq_none_iff.mpr fun entry listed => ?_
    have beyond : 128 ≤ entry.1 := of_decide_eq_true (List.all_eq_true.mp later entry listed)
    exact bne_iff_ne.mpr (Nat.ne_of_lt (Nat.lt_of_lt_of_le ascii beyond))
  rw [caseForm, single, shiftCase_filter ascii]

/-- The forms of the first 128 characters are those that the core library knows. -/
theorem caseForms_of_ascii {c : Char} (ascii : c.toNat < 128) :
    upperChar c = [c.toUpper] ∧ lowerChar c = [c.toLower] := by
  have upper : upperRuns.filter (·.first < 128) = [⟨97, 122, 1, -32⟩] := by rfl
  have lower : lowerRuns.filter (·.first < 128) = [⟨65, 90, 1, 32⟩] := by rfl
  rw [upperChar, lowerChar, caseForm_of_ascii (by decide +kernel) ascii,
    caseForm_of_ascii (by decide +kernel) ascii, upper, lower]
  exact forall_ascii (P := fun c => [shiftCase [⟨97, 122, 1, -32⟩] c] = [c.toUpper] ∧
    [shiftCase [⟨65, 90, 1, 32⟩] c] = [c.toLower]) (by decide +kernel) ascii

theorem lowerAfter_of_ascii {cs : List Char} (ascii : ∀ c ∈ cs, c.toNat < 128)
    (before : List Char) : lowerAfter before cs = cs.map Char.toLower := by
  induction cs generalizing before with
  | nil => rfl
  | cons c rest ih =>
    rw [List.forall_mem_cons] at ascii
    have other : c ≠ 'Σ' := by
      rintro rfl
      exact absurd ascii.1 (by decide)
    rw [lowerAfter, if_neg other, (caseForms_of_ascii ascii.1).2, ih ascii.2, List.map_cons,
      List.singleton_append]

/-- A text of the first 128 characters is lowered character by character. -/
theorem lower_of_ascii {cs : List Char} (ascii : ∀ c ∈ cs, c.toNat < 128) :
    lower cs = cs.map Char.toLower :=
  lowerAfter_of_ascii ascii []

end Text
end TypedRpc
