import Mathlib.Data.List.Induction
import Mathlib.Logic.Function.Iterate

/-!
# Lexical paths

A path is divided by a separator into steps of a walk: a name goes down, two
dots go up, one dot or nothing stays.  Two paths denote one file, as far as
their texts say, if their walks end at the same place.  At the top of an
absolute path there is no way up; a relative path may end above its start.
-/

namespace Library
namespace LexicalPath

variable {Symbol : Type*}

/-- Where a walk ends: some steps above its start and, from there, below some
names, the last one first. -/
structure Place (Symbol : Type*) where
  above : ℕ
  names : List (List Symbol)
deriving DecidableEq

namespace Place

def start : Place Symbol := ⟨0, []⟩

def child (place : Place Symbol) (name : List Symbol) : Place Symbol :=
  ⟨place.above, name :: place.names⟩

def parent (absolute : Bool) (place : Place Symbol) : Place Symbol :=
  match place.names with
  | _ :: names => ⟨place.above, names⟩
  | [] => if absolute then place else ⟨place.above + 1, []⟩

/-- The place reached by another walk that goes on from this one. -/
def follow (absolute : Bool) (place walked : Place Symbol) : Place Symbol :=
  let base := (parent absolute)^[walked.above] place
  ⟨base.above, walked.names ++ base.names⟩

end Place

/-- A path after normalisation. -/
structure Path (Symbol : Type*) where
  absolute : Bool
  place : Place Symbol
deriving DecidableEq

def Path.child (path : Path Symbol) (name : List Symbol) : Path Symbol :=
  ⟨path.absolute, path.place.child name⟩

/-! ## Places -/

section Places

variable {absolute : Bool} {place : Place Symbol}

theorem Place.follow_start : place.follow absolute .start = place := rfl

theorem Place.follow_child (walked : Place Symbol) (name : List Symbol) :
    place.follow absolute (walked.child name) =
      (place.follow absolute walked).child name := rfl

/-- Going up after a walk is a longer walk. -/
theorem Place.follow_parent (walked : Place Symbol) :
    place.follow absolute (walked.parent false) =
      (place.follow absolute walked).parent absolute := by
  obtain ⟨above, names⟩ := walked
  cases names with
  | cons name names => rfl
  | nil =>
      simp only [follow, parent, Bool.false_eq_true, if_false,
        Function.iterate_succ_apply', List.nil_append]

/-- Going up leaves no more names than there were. -/
theorem Place.length_names_ascend_le (steps : ℕ) (place : Place Symbol) :
    ((parent absolute)^[steps] place).names.length ≤ place.names.length := by
  induction steps generalizing place with
  | zero => exact Nat.le_refl _
  | succ steps inductionHypothesis =>
      have oneStep :
          (parent absolute place).names.length ≤ place.names.length := by
        obtain ⟨above, names⟩ := place
        cases names with
        | cons name names => exact Nat.le_succ _
        | nil => cases absolute <;> exact Nat.le_refl _
      rw [Function.iterate_succ_apply]
      exact Nat.le_trans (inductionHypothesis _) oneStep

/-- Two walks that differ in their last step cannot both come back. -/
theorem Place.follow_siblings_iff
    {first second : List Symbol} (different : first ≠ second)
    (walked : Place Symbol) :
    ((place.child first).follow absolute walked = place.child first ∧
        (place.child second).follow absolute walked = place.child second) ↔
      walked = .start := by
  constructor
  · rintro ⟨atFirst, atSecond⟩
    obtain ⟨above, names⟩ := walked
    have firstNames := congrArg Place.names atFirst
    have secondNames := congrArg Place.names atSecond
    simp only [follow, child] at firstNames secondNames
    cases names with
    | cons name names =>
        rw [List.cons_append, List.cons.injEq] at firstNames secondNames
        exact absurd (firstNames.1.symm.trans secondNames.1) different
    | nil =>
        cases above with
        | zero => rfl
        | succ above =>
            -- Going up from a child first leads to the place itself.
            rw [List.nil_append, Function.iterate_succ_apply] at firstNames
            have shorter :
                ((parent absolute)^[above] place).names.length ≤
                  place.names.length :=
              length_names_ascend_le above place
            have whole :
                ((parent absolute)^[above] place).names =
                  first :: place.names := firstNames
            rw [whole] at shorter
            exact absurd shorter (Nat.not_succ_le_self _)
  · rintro rfl
    exact ⟨follow_start, follow_start⟩

theorem Path.child_injective
    {path other : Path Symbol} {name otherName : List Symbol}
    (same : path.child name = other.child otherName) :
    path = other ∧ name = otherName := by
  obtain ⟨absolute, above, names⟩ := path
  obtain ⟨otherAbsolute, otherAbove, otherNames⟩ := other
  simp only [child, Place.child, Path.mk.injEq, Place.mk.injEq,
    List.cons.injEq] at same ⊢
  exact ⟨⟨same.1, same.2.1, same.2.2.2⟩, same.2.2.1⟩

end Places

/-! ## Texts and their walks -/

variable [DecidableEq Symbol] (separator dot : Symbol)

/-- A segment that goes down. -/
def IsName (segment : List Symbol) : Prop :=
  segment ≠ [] ∧ segment ≠ [dot] ∧ segment ≠ [dot, dot]

/-- One step of a walk. -/
def enter
    (absolute : Bool) (place : Place Symbol) (segment : List Symbol) :
    Place Symbol :=
  if segment = [] ∨ segment = [dot] then place
  else if segment = [dot, dot] then place.parent absolute
  else place.child segment

def resolve
    (absolute : Bool) (place : Place Symbol) (segments : List (List Symbol)) :
    Place Symbol :=
  segments.foldl (enter dot absolute) place

/-- Where the walk along some segments leads from a path. -/
def walk (path : Path Symbol) (segments : List (List Symbol)) : Path Symbol :=
  ⟨path.absolute, resolve dot path.absolute path.place segments⟩

def isAbsolute (text : List Symbol) : Bool :=
  decide (text.head? = some separator)

def normalize (text : List Symbol) : Path Symbol :=
  walk dot ⟨isAbsolute separator text, .start⟩ (text.splitOn separator)

/-- The segments before the last separator. -/
def directories (text : List Symbol) : List (List Symbol) :=
  (text.splitOn separator).dropLast

/-- What follows the last separator. -/
def fileName (text : List Symbol) : List Symbol :=
  (text.splitOn separator).getLast (List.splitOn_ne_nil _ _)

/-- The directories of a text lead from any place back to it. -/
def LeadsNowhere (text : List Symbol) : Prop :=
  resolve dot false .start (directories separator text) = .start

/-- A file is directly in a directory. -/
def IsInside (directory file : Path Symbol) : Prop :=
  ∃ name, IsName dot name ∧ file = directory.child name

variable {separator dot}

/-! ## Walks -/

section Walks

variable {absolute : Bool} {place : Place Symbol}

theorem enter_name
    {name : List Symbol} (isName : IsName dot name) :
    enter dot absolute place name = place.child name := by
  rw [enter, if_neg (not_or.mpr ⟨isName.1, isName.2.1⟩), if_neg isName.2.2]

theorem resolve_append (segments further : List (List Symbol)) :
    resolve dot absolute place (segments ++ further) =
      resolve dot absolute (resolve dot absolute place segments) further :=
  List.foldl_append

/-- A walk from a place follows the walk from the start. -/
theorem resolve_eq_follow (segments : List (List Symbol)) :
    resolve dot absolute place segments =
      place.follow absolute (resolve dot false .start segments) := by
  induction segments using List.reverseRecOn with
  | nil => rfl
  | append_singleton segments segment inductionHypothesis =>
      rw [resolve_append, resolve_append, inductionHypothesis]
      simp only [resolve, List.foldl_cons, List.foldl_nil, enter]
      split_ifs
      · rfl
      · rw [Place.follow_parent]
      · rw [Place.follow_child]

end Walks

/-! ## Texts -/

section Texts

/-- Only the last segment grows when a text is continued without separator. -/
theorem exists_splitOn_append (text : List Symbol) :
    ∃ before last,
      text.splitOn separator = before ++ [last] ∧
        ∀ suffix, separator ∉ suffix →
          (text ++ suffix).splitOn separator =
            before ++ [last ++ suffix] := by
  induction text with
  | nil =>
      exact ⟨[], [], rfl, fun suffix undivided =>
        List.splitOn_eq_singleton undivided⟩
  | cons symbol text inductionHypothesis =>
      obtain ⟨before, last, whole, continued⟩ := inductionHypothesis
      by_cases separates : symbol = separator
      · refine ⟨[] :: before, last, ?_, fun suffix undivided => ?_⟩
        · simp [List.splitOn_cons_eq_if_modifyHead, separates, whole]
        · simp [List.splitOn_cons_eq_if_modifyHead, separates,
            continued suffix undivided]
      · cases before with
        | nil =>
            refine ⟨[], symbol :: last, ?_, fun suffix undivided => ?_⟩
            · simp [List.splitOn_cons_eq_if_modifyHead, separates, whole]
            · simp [List.splitOn_cons_eq_if_modifyHead, separates,
                continued suffix undivided]
        | cons first before =>
            refine ⟨(symbol :: first) :: before, last, ?_,
              fun suffix undivided => ?_⟩
            · simp [List.splitOn_cons_eq_if_modifyHead, separates, whole]
            · simp [List.splitOn_cons_eq_if_modifyHead, separates,
                continued suffix undivided]

theorem splitOn_append_of_not_mem
    {suffix : List Symbol} (undivided : separator ∉ suffix)
    (text : List Symbol) :
    (text ++ suffix).splitOn separator =
      directories separator text ++ [fileName separator text ++ suffix] := by
  obtain ⟨before, last, whole, continued⟩ :=
    @exists_splitOn_append _ _ separator text
  simp only [continued suffix undivided, directories, fileName, whole,
    List.dropLast_concat, List.getLast_concat]

theorem walk_append (path : Path Symbol) (segments further) :
    walk dot path (segments ++ further) =
      walk dot (walk dot path segments) further := by
  rw [walk, resolve_append]
  rfl

theorem walk_name
    {name : List Symbol} (isName : IsName dot name) (path : Path Symbol) :
    walk dot path [name] = path.child name := by
  simp only [walk, resolve, List.foldl_cons, List.foldl_nil,
    enter_name isName]
  rfl

/-- Only the top of a path counts for whether it is absolute. -/
theorem isAbsolute_append_cons (base rest : List Symbol) :
    isAbsolute separator (base ++ separator :: rest) =
      isAbsolute separator (base ++ [separator]) := by
  cases base <;> rfl

theorem normalize_append_separator (base : List Symbol) :
    normalize separator dot (base ++ [separator]) =
      walk dot ⟨isAbsolute separator (base ++ [separator]), .start⟩
        (base.splitOn separator) := by
  rw [normalize, List.splitOn_append_cons_self, List.splitOn_nil, walk_append]
  rfl

/-- A longer text goes on from where its beginning leads. -/
theorem normalize_append (base rest : List Symbol) :
    normalize separator dot (base ++ separator :: rest) =
      walk dot (normalize separator dot (base ++ [separator]))
        (rest.splitOn separator) := by
  rw [normalize_append_separator, ← walk_append,
    ← List.splitOn_append_cons_self, normalize, isAbsolute_append_cons]

theorem normalize_trailing {base : List Symbol} (nonempty : base ≠ []) :
    normalize separator dot (base ++ [separator]) =
      normalize separator dot base := by
  rw [normalize_append_separator, normalize]
  cases base with
  | nil => exact absurd rfl nonempty
  | cons symbol base => rfl

/-- The path of a child of a root. -/
theorem normalize_child
    {name : List Symbol} (isName : IsName dot name)
    (undivided : separator ∉ name) (root : List Symbol) :
    normalize separator dot (root ++ separator :: name) =
      (normalize separator dot (root ++ [separator])).child name := by
  rw [normalize_append, List.splitOn_eq_singleton undivided,
    walk_name isName]

/-- A file is written below where the directories of its text lead. -/
theorem normalize_file
    {directory suffix : List Symbol} (nonempty : directory ≠ [])
    (undivided : separator ∉ suffix) {text : List Symbol}
    (isName : IsName dot (fileName separator text ++ suffix)) :
    normalize separator dot (directory ++ separator :: (text ++ suffix)) =
      (walk dot (normalize separator dot directory)
        (directories separator text)).child
        (fileName separator text ++ suffix) := by
  rw [normalize_append, normalize_trailing nonempty,
    splitOn_append_of_not_mem undivided, walk_append, walk_name isName]

end Texts

/-! ## Files in a directory -/

omit [DecidableEq Symbol] in
theorem isInside_child_iff
    {name : List Symbol} (isName : IsName dot name)
    (directory reached : Path Symbol) :
    IsInside dot directory (reached.child name) ↔ reached = directory := by
  constructor
  · rintro ⟨other, _, same⟩
    exact (Path.child_injective same).1
  · rintro rfl
    exact ⟨name, isName, rfl⟩

/-- A text leads from two siblings back to both exactly if it leads
nowhere. -/
theorem walk_siblings_iff
    {first second : List Symbol} (different : first ≠ second)
    (root : Path Symbol) (text : List Symbol) :
    (walk dot (root.child first) (directories separator text) =
          root.child first ∧
        walk dot (root.child second) (directories separator text) =
          root.child second) ↔
      LeadsNowhere separator dot text := by
  have returns : ∀ path : Path Symbol,
      walk dot path (directories separator text) = path ↔
        path.place.follow path.absolute
            (resolve dot false .start (directories separator text)) =
          path.place := by
    rintro ⟨absolute, place⟩
    rw [walk, resolve_eq_follow, Path.mk.injEq, and_iff_right rfl]
  rw [returns, returns]
  exact Place.follow_siblings_iff different _

/-- A text that leads nowhere leads from every path back to it. -/
theorem LeadsNowhere.walk_eq
    {text : List Symbol} (nowhere : LeadsNowhere separator dot text)
    (path : Path Symbol) :
    walk dot path (directories separator text) = path := by
  rw [walk, resolve_eq_follow, nowhere]
  rfl

/-- A text without separator leads nowhere. -/
theorem leadsNowhere_of_not_mem
    {text : List Symbol} (undivided : separator ∉ text) :
    LeadsNowhere separator dot text := by
  rw [LeadsNowhere, directories, List.splitOn_eq_singleton undivided]
  rfl

theorem fileName_of_not_mem
    {text : List Symbol} (undivided : separator ∉ text) :
    fileName separator text = text := by
  simp only [fileName, List.splitOn_eq_singleton undivided,
    List.getLast_singleton]

end LexicalPath
end Library
