import Payable.Foundation.Tables
import Mathlib.Data.List.Sort

namespace Payable.WhereClauses
open Tables

-- The truth of a condition over columns that may be null; none is UNKNOWN.
abbrev Truth := Option Bool

def Truth.both : Truth → Truth → Truth
  | some false,_ | _,some false => some false
  | some true,some true => some true
  | _,_ => none

def Truth.either : Truth → Truth → Truth
  | some true,_ | _,some true => some true
  | some false,some false => some false
  | _,_ => none

variable {Row α : Type}

abbrev Condition (Row : Type) := Row → Truth

-- A comparison with a null is unknown.
def compare (column : Row → Option α) (test : α → Bool) : Condition Row := fun row => (column row).map test

def isNull (column : Row → Option α) : Condition Row := fun row => some (column row).isNone

def isNotNull (column : Row → Option α) : Condition Row := fun row => some (column row).isSome

-- column = value; a null value is asked for by IS NULL.
def equals [BEq α] (column : Row → Option α) : Option α → Condition Row
  | none => isNull column
  | some value => compare column (· == value)

-- column IN (values).
def within [BEq α] (column : Row → Option α) (values : List α) : Condition Row := compare column values.contains

def conjunction (conditions : List (Condition Row)) : Condition Row := fun row =>
  conditions.foldr (fun condition rest => (condition row).both rest) (some true)

def disjunction (conditions : List (Condition Row)) : Condition Row := fun row =>
  conditions.foldr (fun condition rest => (condition row).either rest) (some false)

-- A WHERE clause as the calls of a query builder write it, from left to right; AND binds closer than OR.
structure Builder (Row : Type) where
  closed : List (List (Condition Row))
  current : List (Condition Row)

namespace Builder

def empty : Builder Row := ⟨[],[]⟩

def andWhere (builder : Builder Row) (condition : Condition Row) : Builder Row :=
  {builder with current := builder.current ++ [condition]}

-- The first condition has no joiner before it.
def orWhere (builder : Builder Row) (condition : Condition Row) : Builder Row :=
  ⟨if builder.current.isEmpty then builder.closed else builder.closed ++ [builder.current],[condition]⟩

def truth (builder : Builder Row) : Condition Row := disjunction ((builder.closed ++ [builder.current]).map conjunction)

-- A row is taken where the condition is true, not where it is unknown.
def selects (builder : Builder Row) (row : Row) : Bool := builder.truth row == some true

end Builder

-- A filter object: a field that is asked to be null, one that is compared (which a null never passes), AND and OR.
abbrev Clause (Row : Type) := Row → Bool

def asks [BEq α] (column : Row → Option α) (value : Option α) : Clause Row := fun row => column row == value

def passes (column : Row → Option α) (test : α → Bool) : Clause Row := fun row => (column row).any test

def AND (filters : List (Clause Row)) : Clause Row := fun row => filters.all (· row)

def OR (filters : List (Clause Row)) : Clause Row := fun row => filters.any (· row)

theorem both_true {a b : Truth} : a.both b = some true ↔ a = some true ∧ b = some true := by
  rcases a with _ | _ | _ <;> rcases b with _ | _ | _ <;> simp [Truth.both]

theorem either_true {a b : Truth} : a.either b = some true ↔ a = some true ∨ b = some true := by
  rcases a with _ | _ | _ <;> rcases b with _ | _ | _ <;> simp [Truth.either]

theorem conjunction_true {conditions : List (Condition Row)} {row : Row} :
    conjunction conditions row = some true ↔ ∀ condition ∈ conditions, condition row = some true := by
  induction conditions with
  | nil => simp [conjunction]
  | cons first rest ih =>
      have unfolded : conjunction (first :: rest) row = (first row).both (conjunction rest row) := rfl
      rw [unfolded,both_true,ih,List.forall_mem_cons]

theorem disjunction_true {conditions : List (Condition Row)} {row : Row} :
    disjunction conditions row = some true ↔ ∃ condition ∈ conditions, condition row = some true := by
  induction conditions with
  | nil => simp [disjunction]
  | cons first rest ih =>
      have unfolded : disjunction (first :: rest) row = (first row).either (disjunction rest row) := rfl
      rw [unfolded,either_true,ih,List.exists_mem_cons_iff]

-- Without a NOT, unknown stands for false.
theorem truth_true {builder : Builder Row} {row : Row} : builder.truth row = some true ↔
    ∃ group ∈ builder.closed ++ [builder.current], ∀ condition ∈ group, condition row = some true := by
  unfold Builder.truth
  rw [disjunction_true]
  constructor
  · rintro ⟨condition,inside,holds⟩
    obtain ⟨group,member,rfl⟩ := List.mem_map.mp inside
    exact ⟨group,member,conjunction_true.mp holds⟩
  · rintro ⟨group,member,holds⟩
    exact ⟨conjunction group,List.mem_map_of_mem member,conjunction_true.mpr holds⟩

theorem selects_true {builder : Builder Row} {row : Row} : builder.selects row = true ↔ builder.truth row = some true := by
  simp [Builder.selects]

@[simp] theorem empty_selects (row : Row) : (Builder.empty : Builder Row).selects row = true := by
  rw [selects_true,truth_true]
  exact ⟨[],by simp [Builder.empty],nofun⟩

theorem andWhere_selects {builder : Builder Row} {condition : Condition Row} {row : Row} (flat : builder.closed = []) :
    (builder.andWhere condition).selects row = true ↔ builder.selects row = true ∧ condition row = some true := by
  rw [selects_true,selects_true,truth_true,truth_true]
  simp only [flat,List.nil_append,List.mem_singleton,exists_eq_left,Builder.andWhere,List.mem_append]
  constructor
  · intro holds
    exact ⟨fun its inside => holds its (.inl inside),holds condition (.inr rfl)⟩
  · rintro ⟨before,last⟩ its (inside | rfl)
    · exact before its inside
    · exact last

theorem orWhere_selects {builder : Builder Row} {condition : Condition Row} {row : Row} (nonempty : builder.current ≠ []) :
    (builder.orWhere condition).selects row = true ↔ builder.selects row = true ∨ condition row = some true := by
  have kept : builder.current.isEmpty = false := by simpa using nonempty
  rw [selects_true,selects_true,truth_true,truth_true]
  simp only [Builder.orWhere,kept,Bool.false_eq_true,if_false]
  constructor
  · rintro ⟨group,inside,holds⟩
    rcases List.mem_append.mp inside with before | last
    · exact .inl ⟨group,before,holds⟩
    · cases List.mem_singleton.mp last
      exact .inr (holds condition (List.mem_singleton_self _))
  · rintro (⟨group,inside,holds⟩ | holds)
    · exact ⟨group,List.mem_append_left _ inside,holds⟩
    · refine ⟨[condition],List.mem_append_right _ (List.mem_singleton_self _),?_⟩
      intro its same
      cases List.mem_singleton.mp same
      exact holds

@[simp] theorem compare_true {column : Row → Option α} {test : α → Bool} {row : Row} :
    compare column test row = some true ↔ passes column test row = true := by
  simp [compare,passes,Option.any_eq_true]

@[simp] theorem isNotNull_true {column : Row → Option α} {row : Row} :
    isNotNull column row = some true ↔ passes column (fun _ => true) row = true := by
  cases value : column row <;> simp [isNotNull,passes,value]

@[simp] theorem equals_true [BEq α] [LawfulBEq α] {column : Row → Option α} {value : Option α} {row : Row} :
    equals column value row = some true ↔ asks column value row = true := by
  cases value with
  | none => simp [equals,isNull,asks]
  | some value =>
      cases its : column row <;> simp [equals,compare,asks,its]

theorem isNull_asks [BEq α] [LawfulBEq α] {column : Row → Option α} {row : Row} :
    isNull column row = some true ↔ asks column none row = true :=
  (equals_true : equals column none row = some true ↔ asks column none row = true)

-- A clause without OR that takes the rows a list of filters takes.
structure Means (builder : Builder Row) (filters : List (Clause Row)) : Prop where
  flat : builder.closed = []
  same : ∀ row, builder.selects row = true ↔ AND filters row = true

theorem Means.start : Means (Builder.empty : Builder Row) [] := ⟨rfl,fun row => by simp [AND]⟩

theorem Means.narrow {builder : Builder Row} {filters : List (Clause Row)} {condition : Condition Row} {filter : Clause Row}
    (means : Means builder filters) (same : ∀ row, condition row = some true ↔ filter row = true) :
    Means (builder.andWhere condition) (filters ++ [filter]) := by
  refine ⟨means.flat,?_⟩
  intro row
  rw [andWhere_selects means.flat,means.same,same]
  simp [AND]

-- A filter that every row passes leaves the clause as it is.
theorem Means.skip {builder : Builder Row} {filters : List (Clause Row)} {filter : Clause Row} (means : Means builder filters)
    (always : ∀ row, filter row = true) : Means builder (filters ++ [filter]) := by
  refine ⟨means.flat,?_⟩
  intro row
  rw [means.same]
  simp [AND,always]

theorem Means.selects {builder : Builder Row} {filters : List (Clause Row)} (means : Means builder filters) :
    builder.selects = AND filters := by
  funext row
  rw [Bool.eq_iff_iff]
  exact means.same row

-- Two clauses joined by OR, and nested.
theorem either_means {builder : Builder Row} {filters : List (Clause Row)} {condition : Condition Row} {filter : Clause Row}
    (means : Means builder filters) (nonempty : builder.current ≠ []) (same : ∀ row, condition row = some true ↔ filter row = true)
    (row : Row) : (builder.orWhere condition).truth row = some true ↔ OR [AND filters,filter] row = true := by
  rw [← selects_true,orWhere_selects nonempty,means.same,same]
  simp [OR]

theorem Means.nested {builder : Builder Row} {filters : List (Clause Row)} (means : Means builder filters) (row : Row) :
    builder.truth row = some true ↔ AND filters row = true := by
  rw [← selects_true,means.same]

theorem and_single (filter : Clause Row) : AND [filter] = filter := by
  funext row
  simp [AND]

-- The constraints of a table: its unique indexes, and a condition on each row that is written.
structure Schema (Row : Type) where
  unique : List Row → Bool
  checks : Row → Bool

inductive Violation where
  | check | unique
  deriving DecidableEq

-- UPDATE .. WHERE: the table it leaves and the number of rows it reached.
def Schema.update (schema : Schema Row) (rows : List Row) (selects : Row → Bool) (patch : Row → Row) :
    Except Violation (List Row × Nat) :=
  let next := updateWhere selects patch rows
  if rows.any fun row => selects row && !schema.checks (patch row) then .error .check
  else if schema.unique next then .ok (next,(rows.filter selects).length) else .error .unique

def Schema.insert (schema : Schema Row) (rows : List Row) (row : Row) : Except Violation (List Row) :=
  if !schema.checks row then .error .check
  else if schema.unique (rows ++ [row]) then .ok (rows ++ [row]) else .error .unique

-- SELECT .. WHERE .. ORDER BY .. LIMIT.
def select (rows : List Row) (selects : Row → Bool) (before : Row → Row → Prop) [DecidableRel before] (limit : Nat) : List Row :=
  ((rows.filter selects).insertionSort before).take limit

-- A given value, or the column as it stands.
def given (value : Option α) (column : α) : α := value.getD column

theorem updateWhere_unselected {selects : Row → Bool} (none_ : ∀ row ∈ rows, selects row = false) :
    updateWhere selects patch rows = rows := by
  refine map_unchanged.mpr ?_
  intro row member
  rw [none_ row member]
  rfl

theorem update_congr {schema : Schema Row} {selects selects' : Row → Bool} {patch patch' : Row → Row}
    (same : ∀ row ∈ rows, selects row = selects' row) (patched : ∀ row ∈ rows, selects row = true → patch row = patch' row) :
    schema.update rows selects patch = schema.update rows selects' patch' := by
  have tables : updateWhere selects patch rows = updateWhere selects' patch' rows := by
    refine List.map_congr_left ?_
    intro row member
    by_cases selected : selects row = true
    · rw [← same row member,if_pos selected,if_pos selected,patched row member selected]
    · rw [← same row member,if_neg selected,if_neg selected]
  have checked : (rows.any fun row => selects row && !schema.checks (patch row)) =
      rows.any fun row => selects' row && !schema.checks (patch' row) := by
    have mapped : ∀ test : Row → Bool, rows.any test = (rows.map test).any id := fun test => by simp [List.any_map]
    rw [mapped,mapped,List.map_congr_left]
    intro row member
    cases selected : selects row with
    | false => rw [← same row member,selected]; rfl
    | true => rw [← same row member,selected,patched row member selected]
  have reached : rows.filter selects = rows.filter selects' := List.filter_congr same
  unfold Schema.update
  rw [tables,checked,reached]

-- A table without checks refuses an update for its unique indexes only.
theorem update_checked {schema : Schema Row} {selects : Row → Bool} (passing : ∀ row ∈ rows, selects row = true → schema.checks (patch row) = true) :
    schema.update rows selects patch = {schema with checks := fun _ => true}.update rows selects patch := by
  have none_ : (rows.any fun row => selects row && !schema.checks (patch row)) = false := by
    rw [List.any_eq_false]
    intro row member
    cases selected : selects row with
    | false => simp
    | true => simp [passing row member selected]
  unfold Schema.update
  rw [none_]
  simp

end Payable.WhereClauses
