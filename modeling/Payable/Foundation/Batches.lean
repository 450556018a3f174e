import Payable.Foundation.Interruptions
import Payable.Foundation.Keyset
import Mathlib.Data.String.Basic

namespace Payable.Batches
open Interruptions

variable {Row Db Failure : Type} {key : Row → String}

-- The rows of a table; a key is a uuid, so it is not empty.
structure Table (key : Row → String) where
  rows : List Row
  unique : (rows.map key).Nodup
  named : ∀ row ∈ rows, key row ≠ ""

def Table.keeping (table : Table key) (keep : Row → Bool) : Table key :=
  ⟨table.rows.filter keep,table.unique.sublist (List.filter_sublist.map key),fun row member => table.named row (List.mem_filter.mp member).1⟩

-- The rows read or written as others of the same keys.
def Table.mapped {Other : Type} {key' : Other → String} (table : Table key) (read_ : Row → Other) (same : ∀ row, key' (read_ row) = key row) :
    Table key' where
  rows := table.rows.map read_
  unique := by
    have keys : key' ∘ read_ = key := funext same
    rw [List.map_map,keys]
    exact table.unique
  named := by
    intro row member
    obtain ⟨before,there,rfl⟩ := List.mem_map.mp member
    rw [same]
    exact table.named before there

-- A cursor that is not set or empty asks for the first batch.
def after (key : Row → String) (cursor : Option String) (row : Row) : Bool :=
  match cursor with
  | none => true
  | some cursor => cursor = "" || cursor < key row

def batch (size_ : Nat) (table : Table key) (cursor : Option String) : List Row :=
  (Keyset.ordered key (table.rows.filter (after key cursor))).take size_

theorem batch_member {table : Table key} (member : row ∈ batch size_ table cursor) : row ∈ table.rows ∧ after key cursor row = true :=
  List.mem_filter.mp ((Keyset.mem_ordered key).mp (List.mem_of_mem_take member))

theorem after_later {row other : Row} (named : key row ≠ "") (past : after key cursor row = true)
    (later : after key (some (key row)) other = true) : after key cursor other = true := by
  unfold after at *
  cases cursor with
  | none => rfl
  | some cursor =>
      simp only [decide_eq_true_eq,Bool.or_eq_true] at past later ⊢
      rcases past with empty | less
      · exact .inl empty
      · rcases later with empty | less'
        · exact absurd empty named
        · exact .inr (lt_trans less less')

theorem batch_shrinks {table : Table key} (last : (batch size_ table cursor).getLast? = some row) :
    (table.rows.filter (after key (some (key row)))).length < (table.rows.filter (after key cursor)).length := by
  obtain ⟨inside,past⟩ := batch_member (List.mem_of_getLast? last)
  have named := table.named row inside
  have fewer : table.rows.filter (after key (some (key row))) = (table.rows.filter (after key cursor)).filter (after key (some (key row))) := by
    rw [List.filter_filter]
    refine List.filter_congr fun other _ => ?_
    cases later : after key (some (key row)) other with
    | false => rfl
    | true => rw [after_later named past later]; rfl
  rw [fewer]
  refine List.length_filter_lt_length_iff_exists.mpr ⟨row,List.mem_filter.mpr ⟨inside,past⟩,?_⟩
  simp [after,named]

-- The loop over the rows of a table, in the order of their keys, a batch at a time.
def batched (size_ : Nat) (table : Table key) (op : List Row → Script Db Failure Unit) (cursor : Option String) : Script Db Failure Unit :=
  ask (fun _ => batch size_ table cursor) >>= fun _ =>
    match _last : (batch size_ table cursor).getLast? with
    | none => pure ()
    | some row => op (batch size_ table cursor) >>= fun _ => batched size_ table op (some (key row))
termination_by (table.rows.filter (after key cursor)).length
decreasing_by exact batch_shrinks _last

section Batched

variable {row other : Row} {cursor : Option String} {size_ : Nat} {table : Table key} {op : List Row → Script Db Failure Unit}

theorem batched_some (last : (batch size_ table cursor).getLast? = some row) : batched size_ table op cursor =
    (ask (fun _ => batch size_ table cursor) >>= fun _ =>
      op (batch size_ table cursor) >>= fun _ => batched size_ table op (some (key row))) := by
  rw [batched]
  refine congrArg _ (funext fun _ => ?_)
  split
  · rename_i none_
    cases none_.symm.trans last
  · rename_i row' last'
    cases last'.symm.trans last
    rfl

theorem batched_none (last : (batch size_ table cursor).getLast? = none) :
    batched size_ table op cursor = (ask (fun _ => batch size_ table cursor) >>= fun _ => pure ()) := by
  rw [batched]
  refine congrArg _ (funext fun _ => ?_)
  split
  · rfl
  · rename_i row last'
    cases last'.symm.trans last

theorem batch_none (positive : 0 < size_) (last : (batch size_ table cursor).getLast? = none) (member : row ∈ table.rows) :
    after key cursor row = false := by
  have empty := List.getLast?_eq_none_iff.mp last
  unfold batch at empty
  rcases List.take_eq_nil_iff.mp empty with zero | nothing
  · exact absurd zero positive.ne'
  · have absent : row ∉ Keyset.ordered key (table.rows.filter (after key cursor)) := by
      rw [nothing]
      exact List.not_mem_nil
    rw [Keyset.mem_ordered,List.mem_filter] at absent
    simpa [member] using absent

-- A row after the cursor is in the batch or comes after the last row of it.
theorem batch_covers (last : (batch size_ table cursor).getLast? = some row) (member : other ∈ table.rows) (past : after key cursor other = true) :
    other ∈ batch size_ table cursor ∨ after key (some (key row)) other = true := by
  have keyed : ((table.rows.filter (after key cursor)).map key).Nodup := table.unique.sublist (List.filter_sublist.map key)
  have inside := (Keyset.mem_ordered key).mpr (List.mem_filter.mpr ⟨member,past⟩)
  refine (Keyset.take_last key (Keyset.ordered_strict key keyed) last inside).imp_right fun less => ?_
  unfold after
  simp [less]

-- A table of one row is one batch.
theorem batched_single (single : table.rows = [row]) (positive : 0 < size_) : batched size_ table op none =
    (ask (fun _ => [row]) >>= fun _ => op [row] >>= fun _ => ask (fun _ => ([] : List Row)) >>= fun _ => pure ()) := by
  have first : batch size_ table none = [row] := by
    have rows : table.rows.filter (after key none) = [row] := by
      rw [single]
      rfl
    rw [batch,rows,Keyset.ordered,List.mergeSort_singleton,List.take_of_length_le]
    exact positive
  have second : batch size_ table (some (key row)) = [] := by
    have rows : table.rows.filter (after key (some (key row))) = [] := by
      rw [single]
      have named := table.named row (by rw [single]; exact List.mem_singleton_self row)
      simp [after,named]
    rw [batch,rows,Keyset.ordered,List.mergeSort_nil,List.take_nil]
  have last : (batch size_ table none).getLast? = some row := by
    rw [first]
    rfl
  have last' : (batch size_ table (some (key row))).getLast? = none := by
    rw [second]
    rfl
  rw [batched_some last,batched_none last',first,second]

theorem batched_steady [Preorder Db] {valid : Db → Prop} {Done : Row → Db → Prop} (positive : 0 < size_)
    (steady : ∀ rows, Steady valid (op rows) fun db => ∀ row ∈ rows, Done row db) (cursor : Option String) :
    Steady valid (batched size_ table op cursor) fun db => ∀ row ∈ table.rows, after key cursor row = true → Done row db := by
  induction cursor using batched.induct size_ table with
  | case1 cursor ih =>
      cases last : (batch size_ table cursor).getLast? with
      | none =>
          rw [batched_none last]
          refine .asked (fun _ => rfl) ((Steady.constant 0 (.ok ()) fun _ => rfl).congr fun db => ?_)
          refine iff_of_true rfl fun row member past => ?_
          rw [batch_none positive last member] at past
          cases past
      | some row =>
          rw [batched_some last]
          refine .asked (fun _ => rfl) (((steady (batch size_ table cursor)).bind (ih row last)).congr fun db => ⟨?_,?_⟩)
          · intro done other member past
            rcases batch_covers last member past with inside | later
            · exact done.1 other inside
            · exact done.2 other member later
          · intro done
            refine ⟨fun other inside => ?_,fun other member later => ?_⟩
            · obtain ⟨member,past⟩ := batch_member inside
              exact done other member past
            · obtain ⟨inside,past⟩ := batch_member (List.mem_of_getLast? last)
              exact done other member (after_later (table.named row inside) past later)

theorem batched_keeps {P : Db → Prop} (keeps : ∀ rows, Keeps P (op rows)) (cursor : Option String) : Keeps P (batched size_ table op cursor) := by
  induction cursor using batched.induct size_ table with
  | case1 cursor ih =>
      cases last : (batch size_ table cursor).getLast? with
      | none =>
          rw [batched_none last]
          exact .bind (.ask _) fun _ => .done ()
      | some row =>
          rw [batched_some last]
          exact .bind (.ask _) fun _ => .bind (keeps _) fun _ => ih row last

end Batched

end Payable.Batches
