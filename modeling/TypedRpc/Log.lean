import TypedRpc.Breakdown

/-!
# Log lines

Work that may be logged yields, beside its result, the lines that it logs in order.  A breakdown
keeps the lines that were logged before it.
-/

namespace TypedRpc

/-- How important a log line is. -/
inductive LogLevel where
  | debug
  | warning
  deriving DecidableEq, Repr

/-- The word for a level. -/
def LogLevel.word : LogLevel → String
  | .debug => "DEBUG"
  | .warning => "WARNING"

/-- The part of the generator that logs a line. -/
inductive LogSource where
  | discovery
  | generation
  | typeDeclarations
  deriving DecidableEq, Repr

/-- The name of a part. -/
def LogSource.name : LogSource → String
  | .discovery => "rpcgen.codegen.discovery"
  | .generation => "rpcgen.codegen.generator"
  | .typeDeclarations => "rpcgen.codegen.type_generators"

/-- A line of the log. -/
structure LogLine where
  level : LogLevel
  source : LogSource
  text : String
  deriving DecidableEq, Repr

/-- A line as it is shown. -/
def LogLine.shown (line : LogLine) : String :=
  line.level.word ++ " " ++ line.source.name ++ ": " ++ line.text

/-- A result, or a breakdown, and what was logged on the way. -/
structure Logged (α : Type) where
  log : List LogLine
  result : Except Breakdown α

namespace Logged

variable {α β : Type}

/-- A result without any log. -/
def ofExcept (result : Except Breakdown α) : Logged α :=
  ⟨[], result⟩

/-- Logs a line. -/
def line (level : LogLevel) (source : LogSource) (text : String) : Logged Unit :=
  ⟨[⟨level, source, text⟩], .ok ()⟩

/-- Goes on with a result. -/
def andThen (first : Logged α) (next : α → Logged β) : Logged β :=
  match first.result with
  | .error breakdown => ⟨first.log, .error breakdown⟩
  | .ok a => let second := next a; ⟨first.log ++ second.log, second.result⟩

instance : Monad Logged where
  pure a := ⟨[], .ok a⟩
  bind := andThen

/-! ## Laws -/

protected theorem id_map (work : Logged α) : id <$> work = work := by
  obtain ⟨log, result⟩ := work
  cases result <;> simp [Functor.map, andThen]

protected theorem pure_bind (a : α) (next : α → Logged β) : pure a >>= next = next a := by
  simp [bind, pure, andThen]

protected theorem bind_assoc {γ : Type} (work : Logged α) (next : α → Logged β)
    (last : β → Logged γ) : work >>= next >>= last = work >>= fun a => next a >>= last := by
  obtain ⟨log, result⟩ := work
  cases result with
  | error breakdown => rfl
  | ok a =>
    simp only [bind, andThen]
    cases (next a).result <;> simp

instance : LawfulMonad Logged :=
  .mk' Logged Logged.id_map Logged.pure_bind Logged.bind_assoc

/-- The result of work in two steps does not depend on what is logged. -/
theorem result_bind (work : Logged α) (next : α → Logged β) :
    (work >>= next).result = work.result >>= fun a => (next a).result := by
  cases h : work.result <;> simp [bind, andThen, h, Except.bind]

theorem result_mapM (f : α → Logged β) (items : List α) :
    (items.mapM f).result = items.mapM fun item => (f item).result := by
  induction items with
  | nil => rfl
  | cons item rest ih =>
    rw [List.mapM_cons, List.mapM_cons, result_bind]
    congr 1
    funext first
    rw [result_bind, ih]
    rfl

end Logged
end TypedRpc
