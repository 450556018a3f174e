import Mathlib.Algebra.BigOperators.Group.List.Basic
import Mathlib.Algebra.Order.Ring.Int
import Mathlib.Algebra.Order.BigOperators.Group.List
import Mathlib.Data.List.Nodup

namespace Payable.Tables

-- A table is the list of its rows in insertion order; a key tells them apart.
variable {Row Other Key : Type}

def Keyed (key : Row → Key) (rows : List Row) : Prop := (rows.map key).Nodup

instance [DecidableEq Key] (key : Row → Key) (rows : List Row) : Decidable (Keyed key rows) :=
  inferInstanceAs (Decidable (rows.map key).Nodup)

-- UPDATE .. WHERE key = k.
def patchKey [DecidableEq Key] (key : Row → Key) (k : Key) (patch : Row → Row) (rows : List Row) : List Row :=
  rows.map fun row => if key row = k then patch row else row

def lookup [DecidableEq Key] (key : Row → Key) (k : Key) (rows : List Row) : Option Row := rows.find? fun row => key row = k

def total (weight : Row → Int) (rows : List Row) : Int := (rows.map weight).sum

theorem patchKey_keys [DecidableEq Key] {key : Row → Key} (rows : List Row) (stable : ∀ row, key (patch row) = key row) :
    (patchKey key k patch rows).map key = rows.map key := by
  simp only [patchKey,List.map_map]
  apply List.map_congr_left
  intro row _
  simp only [Function.comp]
  split
  · exact stable row
  · rfl

theorem keyed_patch [DecidableEq Key] {key : Row → Key} (keyed : Keyed key rows) (stable : ∀ row, key (patch row) = key row) :
    Keyed key (patchKey key k patch rows) := by
  unfold Keyed
  rw [patchKey_keys rows stable]
  exact keyed

theorem keyed_append {key : Row → Key} (keyed : Keyed key rows) (fresh : ∀ row ∈ rows, key row ≠ key new) :
    Keyed key (rows ++ [new]) := by
  simp only [Keyed,List.map_append,List.map_cons,List.map_nil]
  refine List.nodup_append.mpr ⟨keyed,List.nodup_singleton _,?_⟩
  intro k before other after
  obtain ⟨row,member,rfl⟩ := List.mem_map.mp before
  rw [List.mem_singleton.mp after]
  exact fresh row member

theorem keyed_unique {key : Row → Key} (keyed : Keyed key rows) (one : a ∈ rows) (other : b ∈ rows)
    (same : key a = key b) : a = b :=
  List.inj_on_of_nodup_map keyed one other same

theorem mem_patchKey [DecidableEq Key] {key : Row → Key} :
    row ∈ patchKey key k patch rows ↔ ∃ old ∈ rows, (if key old = k then patch old else old) = row := by
  simp [patchKey]

-- Members of a patched table: the patched row, and the others as they were.
theorem mem_patchKey_other [DecidableEq Key] {key : Row → Key} (member : row ∈ rows) (other : key row ≠ k) :
    row ∈ patchKey key k patch rows :=
  mem_patchKey.mpr ⟨row,member,if_neg other⟩

theorem mem_patchKey_self [DecidableEq Key] {key : Row → Key} (member : row ∈ rows) (same : key row = k) :
    patch row ∈ patchKey key k patch rows :=
  mem_patchKey.mpr ⟨row,member,if_pos same⟩

-- UPDATE .. WHERE with any condition.
def updateWhere (selects : Row → Bool) (patch : Row → Row) (rows : List Row) : List Row :=
  rows.map fun row => if selects row then patch row else row

theorem mem_updateWhere {selects : Row → Bool} :
    row ∈ updateWhere selects patch rows ↔ ∃ old ∈ rows, (if selects old then patch old else old) = row := by
  simp [updateWhere]

theorem mem_updateWhere_self {selects : Row → Bool} (member : row ∈ rows) (selected : selects row = true) :
    patch row ∈ updateWhere selects patch rows :=
  mem_updateWhere.mpr ⟨row,member,if_pos selected⟩

theorem mem_updateWhere_other {selects : Row → Bool} (member : row ∈ rows) (unselected : selects row = false) :
    row ∈ updateWhere selects patch rows :=
  mem_updateWhere.mpr ⟨row,member,by rw [unselected]; rfl⟩

theorem updateWhere_keys {key : Row → Key} {selects : Row → Bool} (rows : List Row)
    (stable : ∀ row, key (patch row) = key row) : (updateWhere selects patch rows).map key = rows.map key := by
  simp only [updateWhere,List.map_map]
  apply List.map_congr_left
  intro row _
  simp only [Function.comp]
  split
  · exact stable row
  · rfl

theorem map_unchanged {rows : List Row} {change : Row → Row} : rows.map change = rows ↔ ∀ row ∈ rows, change row = row := by
  have same : rows.map change = rows.map (fun row => row) ↔ ∀ row ∈ rows, change row = row := List.map_inj_left
  rwa [List.map_id'] at same

-- A write that leaves the rows a condition selects alone.
theorem filter_unchanged (keep : Row → Bool) (change : Row → Row) (selects : ∀ row, keep (change row) = keep row)
    (same : ∀ row, keep row = true → change row = row) (rows : List Row) :
    (rows.map change).filter keep = rows.filter keep := by
  induction rows with
  | nil => rfl
  | cons first rest ih =>
      rw [List.map_cons,List.filter_cons,List.filter_cons,selects,ih]
      by_cases kept : keep first = true
      · rw [if_pos kept,if_pos kept,same first kept]
      · rw [if_neg kept,if_neg kept]

theorem total_append (weight : Row → Int) (rows : List Row) (new : Row) :
    total weight (rows ++ [new]) = total weight rows + weight new := by
  simp [total]

theorem patchKey_absent [DecidableEq Key] {key : Row → Key} (absent : ∀ row ∈ rows, key row ≠ k) :
    patchKey key k patch rows = rows := by
  unfold patchKey
  conv_rhs => rw [← List.map_id rows]
  apply List.map_congr_left
  intro row member
  exact if_neg (absent row member)

-- A keyed update changes a total by the change of the one row it reaches.
theorem total_patch [DecidableEq Key] {key : Row → Key} (weight : Row → Int) (keyed : Keyed key rows) (member : row ∈ rows) :
    total weight (patchKey key (key row) patch rows) = total weight rows + (weight (patch row) - weight row) := by
  induction rows with
  | nil => cases member
  | cons first rest ih =>
      have apart := List.nodup_cons.mp keyed
      by_cases here : first = row
      · subst here
        have absent : ∀ other ∈ rest, key other ≠ key first := by
          intro other inside same
          exact apart.1 (same ▸ List.mem_map_of_mem inside)
        have unchanged : patchKey key (key first) patch rest = rest := patchKey_absent absent
        simp only [total,patchKey,List.map_cons,List.sum_cons,if_true] at unchanged ⊢
        rw [unchanged]
        omega
      · have inside : row ∈ rest := (List.mem_cons.mp member).resolve_left (fun same => here same.symm)
        have other : key first ≠ key row := by
          intro same
          exact apart.1 (same ▸ List.mem_map_of_mem inside)
        have below := ih apart.2 inside
        simp only [total,patchKey,List.map_cons,List.sum_cons,if_neg other] at below ⊢
        rw [below]
        omega

theorem lookup_member [DecidableEq Key] {key : Row → Key} (found : lookup key k rows = some row) : row ∈ rows ∧ key row = k :=
  ⟨List.mem_of_find?_eq_some found,by simpa using List.find?_some found⟩

theorem lookup_of_member [DecidableEq Key] {key : Row → Key} (keyed : Keyed key rows) (member : row ∈ rows) :
    lookup key (key row) rows = some row := by
  cases found : lookup key (key row) rows with
  | none =>
      have missed := List.find?_eq_none.mp found row member
      simp at missed
  | some other =>
      obtain ⟨inside,same⟩ := lookup_member found
      rw [keyed_unique keyed inside member same]

theorem lookup_patchKey [DecidableEq Key] {key : Row → Key} (rows : List Row) (stable : ∀ row, key (patch row) = key row) :
    lookup key k (patchKey key k patch rows) = (lookup key k rows).map patch := by
  induction rows with
  | nil => rfl
  | cons first rest ih =>
      unfold lookup patchKey at ih ⊢
      by_cases here : key first = k
      · simp [here,stable]
      · simp only [List.map_cons,if_neg here]
        rw [List.find?_cons_of_neg (by simpa using here),List.find?_cons_of_neg (by simpa using here)]
        exact ih

theorem lookup_patchKey_other [DecidableEq Key] {key : Row → Key} (rows : List Row) (stable : ∀ row, key (patch row) = key row)
    (apart : other ≠ k) : lookup key other (patchKey key k patch rows) = lookup key other rows := by
  induction rows with
  | nil => rfl
  | cons first rest ih =>
      unfold lookup patchKey at ih ⊢
      by_cases here : key first = k
      · have missed : key first ≠ other := fun same => apart (same.symm.trans here)
        simp only [List.map_cons,if_pos here]
        rw [List.find?_cons_of_neg (by simpa [stable] using missed),List.find?_cons_of_neg (by simpa using missed)]
        exact ih
      · simp only [List.map_cons,if_neg here,List.find?_cons]
        rw [ih]

theorem total_nonneg {weight : Row → Int} (nonneg : ∀ row ∈ rows, 0 ≤ weight row) : 0 ≤ total weight rows := by
  induction rows with
  | nil => exact Int.le_refl _
  | cons first rest ih =>
      have head := nonneg first (List.mem_cons_self ..)
      have tail := ih (fun row inside => nonneg row (List.mem_cons_of_mem _ inside))
      simp only [total,List.map_cons,List.sum_cons] at tail ⊢
      omega

-- At most one row passes a test of which two cannot stand beside each other.
theorem filter_alone {apart : Row → Row → Prop} {test : Row → Bool} {rows : List Row} (distinct : rows.Pairwise apart)
    (alone : ∀ a ∈ rows, ∀ b ∈ rows, test a = true → test b = true → ¬ apart a b) : (rows.filter test).length ≤ 1 := by
  have kept : (rows.filter test).Pairwise apart := distinct.filter test
  cases passing : rows.filter test with
  | nil => exact Nat.zero_le _
  | cons first rest =>
      cases rest with
      | nil => exact Nat.le_refl _
      | cons second others =>
          have one : first ∈ rows.filter test := by simp [passing]
          have other : second ∈ rows.filter test := by simp [passing]
          rw [List.mem_filter] at one other
          rw [passing,List.pairwise_cons] at kept
          exact absurd (kept.1 second (List.mem_cons_self ..)) (alone first one.1 second other.1 one.2 other.2)

-- At most one row passes a test that only rows of one key pass.
theorem keyed_alone {key : Row → Key} {test : Row → Bool} (keyed : Keyed key rows)
    (alone : ∀ a ∈ rows, ∀ b ∈ rows, test a = true → test b = true → key a = key b) : (rows.filter test).length ≤ 1 :=
  filter_alone (List.pairwise_map.mp keyed) fun a inside b inside' one other apart => apart (alone a inside b inside' one other)

theorem pairwise_alone {apart : Row → Row → Prop} {test : Row → Bool} (rows : List Row) (distinct : rows.Pairwise apart)
    (alone : ∀ a b, test a = true → test b = true → ¬ apart a b) : (rows.filter test).length ≤ 1 :=
  filter_alone distinct fun a _ b _ => alone a b

-- Entries of a kind that only rows passing a test give are no more than those rows.
theorem given_few {give : Row → Option Other} {kind : Other → Bool} {test : Row → Bool} (rows : List Row)
    (only : ∀ row ∈ rows, ∀ entry, give row = some entry → kind entry = true → test row = true) :
    ((rows.filterMap give).filter kind).length ≤ (rows.filter test).length := by
  induction rows with
  | nil => exact Nat.le_refl _
  | cons first rest ih =>
      have tail := ih fun row inside => only row (List.mem_cons_of_mem _ inside)
      have grown : (rest.filter test).length ≤ ((first :: rest).filter test).length :=
        ((List.sublist_cons_self first rest).filter test).length_le
      cases given : give first with
      | none =>
          rw [List.filterMap_cons_none given]
          exact Nat.le_trans tail grown
      | some entry =>
          rw [List.filterMap_cons_some given]
          by_cases its : kind entry = true
          · rw [List.filter_cons_of_pos its,List.filter_cons_of_pos (only first List.mem_cons_self entry given its)]
            exact Nat.succ_le_succ tail
          · rw [List.filter_cons_of_neg its]
            exact Nat.le_trans tail grown

-- Entries each covered by a row of its own key weigh together at most what the rows do.
theorem total_covered [DecidableEq Row] (key : Row → Key) (entryKey : Other → Key) {weight : Row → Int}
    {entryWeight : Other → Int} (entries : List Other) (rows : List Row) (keyed : Keyed entryKey entries)
    (covered : ∀ entry ∈ entries, ∃ row ∈ rows, key row = entryKey entry ∧ entryWeight entry ≤ weight row)
    (nonneg : ∀ row ∈ rows, 0 ≤ weight row) : total entryWeight entries ≤ total weight rows := by
  induction entries generalizing rows with
  | nil => exact total_nonneg nonneg
  | cons entry rest ih =>
      have apart := List.nodup_cons.mp keyed
      obtain ⟨row,member,same,fits⟩ := covered entry (List.mem_cons_self ..)
      have split : weight row + total weight (rows.erase row) = total weight rows := List.sum_map_erase weight member
      have below : total entryWeight rest ≤ total weight (rows.erase row) := by
        apply ih (rows.erase row) apart.2
        · intro other inside
          obtain ⟨its,found,itsKey,itsFits⟩ := covered other (List.mem_cons_of_mem _ inside)
          refine ⟨its,?_,itsKey,itsFits⟩
          apply (List.mem_erase_of_ne _).mpr found
          intro clash
          subst clash
          exact apart.1 (same ▸ itsKey ▸ List.mem_map_of_mem inside)
        · intro other inside
          exact nonneg other (List.mem_of_mem_erase inside)
      simp only [total,List.map_cons,List.sum_cons] at below split ⊢
      omega

-- A loop in which one element acts, and acting twice is acting once.
theorem foldl_once {State Element : Type} {step : State → Element → State} (acts : Element → Bool) (act : State → State)
    (good : State → Prop) (elements : List Element) (kept : ∀ s, good s → good (act s))
    (idle : ∀ s, good s → ∀ e ∈ elements, acts e = false → step s e = s)
    (active : ∀ s, good s → ∀ e ∈ elements, acts e = true → step s e = act s)
    (again : ∀ s, act (act s) = act s) {s : State} (start : good s) :
    elements.foldl step s = if elements.any acts then act s else s := by
  induction elements generalizing s with
  | nil => rfl
  | cons first rest ih =>
      have tail {u : State} (fine : good u) := ih (fun s valid e inside => idle s valid e (List.mem_cons_of_mem _ inside))
        (fun s valid e inside => active s valid e (List.mem_cons_of_mem _ inside)) fine
      rw [List.foldl_cons]
      cases moved : acts first with
      | true =>
          rw [active s start first (List.mem_cons_self ..) moved,tail (kept s start)]
          simp [moved,again]
      | false =>
          rw [idle s start first (List.mem_cons_self ..) moved,tail start]
          simp [moved]

-- Two lists of one length whose entries agree pairwise.
theorem zipped_member {items : List Row} {snapshots : List Other} (same : Row → Other → Prop)
    (level : items.length = snapshots.length) (paired : ∀ pair ∈ items.zip snapshots, same pair.1 pair.2)
    (member : snapshot ∈ snapshots) : ∃ item ∈ items, same item snapshot := by
  induction items generalizing snapshots with
  | nil =>
      cases snapshots with
      | nil => cases member
      | cons first rest => cases level
  | cons item items ih =>
      cases snapshots with
      | nil => cases level
      | cons first rest =>
          rcases List.mem_cons.mp member with rfl | inside
          · exact ⟨item,List.mem_cons_self ..,paired (item,snapshot) (List.mem_cons_self ..)⟩
          · obtain ⟨other,there,its⟩ := ih (by simpa using level)
              (fun pair zipped => paired pair (List.mem_cons_of_mem _ zipped)) inside
            exact ⟨other,List.mem_cons_of_mem _ there,its⟩

end Payable.Tables
