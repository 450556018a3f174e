import Payable.Collections.CursorRoundTrip
import Payable.Collections.Pages
import Payable.Storage.TenantIsolation

namespace Payable.Collections
open JsonText JsonParse IsoDates Storage Paging Tables

theorem textOf_unitsOf (c : Char) (rest : List Nat) : textOf (unitsOf c ++ rest) = c :: textOf rest := by
  have range := toNat_range c
  unfold unitsOf
  split
  · have plain : unitChar c.toNat = c := by
      rw [unitChar,if_neg (by omega),Char.ofNat_toNat]
    cases rest with
    | nil => simp [textOf,plain]
    | cons next rest =>
        rw [List.singleton_append,textOf,if_neg (by omega),plain]
  · rename_i large
    have whole : 65536 + (55296 + (c.toNat - 65536) / 1024 - 55296) * 1024 + (56320 + (c.toNat - 65536) % 1024 - 56320) = c.toNat := by
      omega
    rw [List.cons_append,List.singleton_append,textOf,if_pos (by omega),whole,Char.ofNat_toNat]

theorem toText_codeUnits (text : String) : toText (codeUnits text) = text := by
  have chars : ∀ chars : List Char, textOf (chars.flatMap unitsOf) = chars := by
    intro chars
    induction chars with
    | nil => rfl
    | cons c rest ih => rw [List.flatMap_cons,textOf_unitsOf,ih]
  rw [toText,codeUnits_flat,chars,String.ofList_toList]

section pages

variable {Row Item Error : Type} (otherDates : List Nat → Option Int)

-- A cursor at a boundary goes on from it.
theorem cursor_resumes (Error : Type) (context : CollectionCursorContext) (boundary : ListCursor) (valid : validTime boundary.createdAt = true)
    (named : boundary.id ≠ "") : ∃ cursor, (cursorAt context (some boundary) : Except (ListError Error) _) = .ok (some cursor) ∧
      (startOf otherDates context (some cursor) : Except (ListError Error) _) = .ok (some boundary) := by
  have same : SameBut stored context context := ⟨rfl,rfl,rfl,rfl⟩
  obtain ⟨cursor,written,read⟩ := decodeWithin_encoded otherDates boundary valid named context context
  rw [if_pos same] at read
  have nonempty : cursor ≠ [] := by
    rintro rfl
    cases read
  have opened : decodeCollectionCursor otherDates cursor context = .ok ⟨boundary.createdAt,codeUnits boundary.id⟩ := by
    rw [decodeCollectionCursor,read]
    rfl
  refine ⟨cursor,by rw [cursorAt,written],?_⟩
  have kept : (some cursor).filter (· ≠ []) = some cursor := by simp [nonempty]
  rw [startOf,kept]
  dsimp only
  rw [opened]
  dsimp only
  rw [toText_codeUnits]

theorem mapM_mapError {Other : Type} (toItem : Row → Except Error Item) (wrap : Error → Other) (rows : List Row) :
    (rows.mapM toItem).mapError wrap = rows.mapM fun row => (toItem row).mapError wrap := by
  induction rows with
  | nil => rfl
  | cons row rest ih =>
      rw [List.mapM_cons,List.mapM_cons,← ih]
      cases toItem row with
      | error => rfl
      | ok item => cases rest.mapM toItem <;> rfl

-- A repository's page of the rows, as the page of the collection.
theorem collectionPage_window {context : CollectionCursorContext} {fetch : Option ListCursor → Except Error (List Item × Bool)}
    {boundaryOf : Item → Option ListCursor} {toItem : Row → Except Error Item} {rows : List Row}
    (started : (startOf otherDates context cursor : Except (ListError Error) _) = .ok before)
    (fetched : fetch before = (((rows.take size).mapM toItem).map fun items => (items,decide (size < rows.length)))) :
    collectionPage otherDates context fetch boundaryOf cursor =
      pageOf (fun row => (toItem row).mapError ListError.storage) (fun last => cursorAt context (boundaryOf last)) size rows := by
  rw [collectionPage,pageOf,← mapM_mapError]
  simp only [bind,Except.bind,started,fetched]
  cases (rows.take size).mapM toItem <;> rfl

end pages

section keyset

variable {Row K : Type} [LinearOrder K] {key : Row → K} {rows : List Row} {keep : Row → Bool}

-- Rows are looked for, put in order and cut off one behind the page.
theorem window_take (toItem : Row → Except Error Item) (size : Nat) (rows : List Row) :
    ((rows.take (size + 1)).take size).mapM toItem = (rows.take size).mapM toItem ∧
      decide (size < (rows.take (size + 1)).length) = decide (size < rows.length) := by
  refine ⟨by rw [List.take_take,Nat.min_eq_left (Nat.le_succ size)],?_⟩
  rw [List.length_take]
  exact decide_eq_decide.mpr (by omega)

theorem ordered_resumes {before after : List Row} {row : Row} (keyed : (rows.map key).Nodup)
    (shape : Keyset.ordered key (rows.filter keep) = before ++ row :: after) :
    Keyset.ordered key (rows.filter fun other => keep other && decide (key row < key other)) = after := by
  have kept : ((rows.filter keep).map key).Nodup := keyed.sublist (List.filter_sublist.map key)
  have strict := Keyset.ordered_strict key kept
  have both : (rows.filter fun other => keep other && decide (key row < key other)) =
      (rows.filter keep).filter fun other => decide (key row < key other) := by
    rw [List.filter_filter]
    exact List.filter_congr fun other _ => Bool.and_comm _ _
  rw [shape] at strict
  rw [both,Keyset.ordered_filter key _ kept,shape,Keyset.filter_after key strict]

-- The pages of a repository that goes on behind a boundary in the order of its keys.
theorem collection_delivers {Item Error : Type} {otherDates : List Nat → Option Int} (positive : 1 ≤ size) (keyed : (rows.map key).Nodup)
    {context : CollectionCursorContext} {fetch : Option ListCursor → Except Error (List Item × Bool)} {boundaryOf : Item → Option ListCursor}
    {toItem : Row → Except Error Item} {boundary : Row → ListCursor} {later : ListCursor → Row → Bool}
    (valid : ∀ row ∈ rows, keep row = true → validTime (boundary row).createdAt = true ∧ (boundary row).id ≠ "")
    (bounded : ∀ row item, keep row = true → toItem row = .ok item → boundaryOf item = some (boundary row))
    (ordered : ∀ row other, later (boundary row) other = decide (key row < key other))
    (fetched : ∀ before after, Keyset.ordered key (rows.filter fun row => keep row && before.all (later · row)) = after →
      fetch before = ((after.take size).mapM toItem).map fun items => (items,decide (size < after.length)))
    (enough : rows.length < fuel) :
    Delivers (fun row => (toItem row).mapError ListError.storage) size (Keyset.ordered key (rows.filter keep))
      (follow (collectionPage otherDates context fetch boundaryOf) fuel none) := by
  have shorter : (Keyset.ordered key (rows.filter keep)).length ≤ rows.length := by
    rw [(Keyset.ordered_perm key _).length_eq]
    exact List.length_filter_le _ _
  refine follow_rows _ (fun last => cursorAt context (boundaryOf last)) positive ?_ ?_ (by omega)
  · intro before row after shape item read
    have member : row ∈ Keyset.ordered key (rows.filter keep) := by
      rw [shape]
      exact List.mem_append_right _ List.mem_cons_self
    obtain ⟨inside,kept⟩ := List.mem_filter.mp ((Keyset.mem_ordered key).mp member)
    have entity : toItem row = .ok item := by
      cases made : toItem row with
      | error =>
          rw [made] at read
          cases read
      | ok =>
          rw [made] at read
          cases read
          rfl
    obtain ⟨cursor,written,started⟩ := cursor_resumes otherDates Error context (boundary row) (valid row inside kept).1 (valid row inside kept).2
    refine ⟨cursor,by rw [bounded row item kept entity]; exact written,collectionPage_window otherDates started (fetched _ _ ?_)⟩
    simpa only [Option.all_some,ordered] using ordered_resumes keyed shape
  · refine collectionPage_window otherDates (show startOf otherDates context none = .ok none from rfl) (fetched _ _ ?_)
    simp only [Option.all_none,Bool.and_true]

end keyset

section payments

variable (otherDates : List Nat → Option Int) (backend : Backend) (query : PaymentListQuery) (context : CollectionCursorContext)
  (tenantId : Option TenantId)

-- Payments as the repository keeps them: their ids are no empty texts, and they have been created at a time.
structure PaymentTable extends Store where
  named : ∀ row ∈ rows, row.id ≠ ""
  dated : ∀ row ∈ rows, validTime row.createdAt = true

def isListed (row : Payment) : Bool := tenantKey row.tenantId = tenantKey tenantId && matchesQuery backend query row

-- The payments that match, the newest first.
def listed (rows : Rows) : Rows := (rows.filter (isListed backend query tenantId)).mergeSort newestFirst

def readPayment (row : Payment) : Except (ListError RepositoryError) Payment := (toEntity backend row).mapError .storage

theorem isBefore_key (row other : Payment) : isBefore ⟨row.createdAt,row.id⟩ other = decide (newestKey row < newestKey other) := by
  rw [Bool.eq_iff_iff]
  simp only [isBefore,newestKey,OrderDual.toDual_lt_toDual,Prod.Lex.toLex_lt_toLex,Bool.or_eq_true,Bool.and_eq_true,decide_eq_true_eq]

theorem toEntity_boundary (read : toEntity backend row = .ok payment) : paymentBoundary payment = some ⟨row.createdAt,row.id⟩ := by
  unfold toEntity at read
  split at read
  · cases read
  · obtain ⟨amount,_,read⟩ := Checked.bind_ok.mp read
    obtain ⟨refundedAmount,_,read⟩ := Checked.bind_ok.mp read
    obtain ⟨capturedAmount,_,read⟩ := Checked.bind_ok.mp read
    cases read
    rfl

-- What page makes of the rows that come after its boundary.
theorem page_window {rows : Rows} (found : ((rows.filter fun row => isListed backend query tenantId row && before.all (isBefore · row)).mergeSort
    newestFirst) = after) :
    ((page backend {query with limit := size,before := before} tenantId rows).map fun found => (found.items,found.hasMore)) =
      ((after.take size).mapM (toEntity backend)).map fun items => (items,decide (size < after.length)) := by
  obtain ⟨items,more⟩ := window_take (toEntity backend) size after
  have window : pageRows backend {query with limit := size,before := before} tenantId rows = after.take (size + 1) := by
    rw [← found]
    rfl
  simp only [page,window,items,more]
  cases (after.take size).mapM (toEntity backend) <;> rfl

theorem payments_delivered (positive : 1 ≤ size) (table : PaymentTable) (enough : table.rows.length < fuel) :
    Delivers (readPayment backend) size (listed backend query tenantId table.rows)
      (follow (paymentPage otherDates backend table.rows query context tenantId size) fuel none) := by
  have ordered : listed backend query tenantId table.rows = Keyset.ordered newestKey (table.rows.filter (isListed backend query tenantId)) := by
    rw [listed,newestFirst_order]
    rfl
  rw [ordered]
  refine collection_delivers positive (newestKey_keyed table.keyed) ?_ ?_ isBefore_key ?_ enough
  · exact fun row inside _ => ⟨table.dated row inside,table.named row inside⟩
  · exact fun row payment _ read => toEntity_boundary backend read
  · intro before after found
    refine page_window backend query tenantId ?_
    rw [newestFirst_order]
    exact found

end payments

section due

open Migrations

variable (otherDates : List Nat → Option Int) (dueBefore : Int) (tenantId : Option String)

structure MigrationTable where
  rows : List Migration
  keyed : Tables.Keyed Migration.id rows
  named : ∀ row ∈ rows, row.id ≠ ""
  dated : ∀ row ∈ rows, ∀ time, effectiveAt row = some time → validTime time = true

def dueRows (rows : List Migration) : List Migration := (rows.filter (isDue dueBefore tenantId)).mergeSort soonestFirst

def readMigration (row : Migration) : Except (ListError MigrationError) Migration := (Migrations.toEntity row).mapError .storage

def dueKey (row : Migration) : Int ×ₗ String := toLex (dueTime row,row.id)

theorem soonestFirst_order : soonestFirst = Keyset.inOrder dueKey := by
  funext a b
  rw [Bool.eq_iff_iff]
  simp only [soonestFirst,Keyset.inOrder,dueKey,Prod.Lex.toLex_le_toLex,Bool.or_eq_true,Bool.and_eq_true,decide_eq_true_eq]

theorem isAfter_key (row other : Migration) : isAfter ⟨dueTime row,row.id⟩ other = decide (dueKey row < dueKey other) := by
  rw [Bool.eq_iff_iff]
  simp only [isAfter,dueKey,Prod.Lex.toLex_lt_toLex,Bool.or_eq_true,Bool.and_eq_true,decide_eq_true_eq]

theorem dueKey_keyed {rows : List Migration} (keyed : Tables.Keyed Migration.id rows) : (rows.map dueKey).Nodup := by
  have lifted : rows.map Migration.id = (rows.map dueKey).map fun k => (ofLex k).2 := by
    rw [List.map_map]
    rfl
  unfold Tables.Keyed at keyed
  rw [lifted] at keyed
  exact keyed.of_map _

theorem dueTime_of (its : isDue dueBefore tenantId row = true) : effectiveAt row = some (dueTime row) := by
  unfold isDue at its
  unfold dueTime
  cases time : effectiveAt row with
  | none => simp [time] at its
  | some => rfl

theorem due_window {rows : List Migration} (found : ((rows.filter fun row => isDue dueBefore tenantId row && before.all (isAfter · row)).mergeSort
    soonestFirst) = after) :
    ((pageDueScheduled rows size dueBefore before tenantId).map fun found => (found.items,found.hasMore)) =
      ((after.take size).mapM Migrations.toEntity).map fun items => (items,decide (size < after.length)) := by
  obtain ⟨items,more⟩ := window_take Migrations.toEntity size after
  simp only [pageDueScheduled,toPage,found,items,more]
  cases (after.take size).mapM Migrations.toEntity <;> rfl

theorem due_delivered (positive : 1 ≤ size) (table : MigrationTable) (enough : table.rows.length < fuel) :
    Delivers readMigration size (dueRows dueBefore tenantId table.rows)
      (follow (duePage otherDates table.rows dueBefore tenantId size) fuel none) := by
  have ordered : dueRows dueBefore tenantId table.rows = Keyset.ordered dueKey (table.rows.filter (isDue dueBefore tenantId)) := by
    rw [dueRows,soonestFirst_order]
    rfl
  rw [ordered]
  refine collection_delivers positive (dueKey_keyed table.keyed) ?_ ?_ isAfter_key ?_ enough
  · exact fun row inside its => ⟨table.dated row inside _ (dueTime_of dueBefore tenantId its),table.named row inside⟩
  · intro row migration its read
    rw [(toEntity_ok read).1,dueBoundary,dueTime_of dueBefore tenantId its]
    rfl
  · intro before after found
    refine due_window dueBefore tenantId ?_
    rw [soonestFirst_order]
    exact found

end due

theorem listed_newest (backend : Backend) (query : PaymentListQuery) (tenantId : Option TenantId) (table : PaymentTable) :
    (listed backend query tenantId table.rows).Pairwise fun a b => b.createdAt < a.createdAt ∨ b.createdAt = a.createdAt ∧ b.id < a.id := by
  have keyed := newestKey_keyed table.keyed
  have strict := Keyset.ordered_strict newestKey (keyed.sublist ((List.filter_sublist (p := isListed backend query tenantId)).map newestKey))
  rw [listed,newestFirst_order]
  exact strict.imp fun before => by simpa [newestKey,Prod.Lex.toLex_lt_toLex] using before

theorem dueRows_soonest (dueBefore : Int) (tenantId : Option String) (table : MigrationTable) :
    (dueRows dueBefore tenantId table.rows).Pairwise fun a b => dueTime a < dueTime b ∨ dueTime a = dueTime b ∧ a.id < b.id := by
  have keyed := dueKey_keyed table.keyed
  have strict := Keyset.ordered_strict dueKey (keyed.sublist ((List.filter_sublist (p := isDue dueBefore tenantId)).map dueKey))
  rw [dueRows,soonestFirst_order]
  exact strict.imp fun before => by simpa [dueKey,Prod.Lex.toLex_lt_toLex] using before

theorem limit_positive (limited : normalizeCollectionLimit limit = some size) : 1 ≤ size := by
  unfold normalizeCollectionLimit at limited
  split at limited
  · cases limited
    decide
  · split at limited
    · rename_i requested its
      cases limited
      have first : 0 < requested.num := Rat.num_pos.mpr (lt_of_lt_of_le zero_lt_one its.2.1)
      omega
    · cases limited
  · cases limited

-- Reading on from page to page ends, with every row that matches once and in its order.
theorem collections_complete (size : Nat) (positive : 1 ≤ size) (otherDates : List Nat → Option Int) :
    (∀ backend query context tenantId (table : PaymentTable) fuel, table.rows.length < fuel →
      (listed backend query tenantId table.rows).Perm (table.rows.filter (isListed backend query tenantId)) ∧
        ((listed backend query tenantId table.rows).Pairwise fun a b => b.createdAt < a.createdAt ∨ b.createdAt = a.createdAt ∧ b.id < a.id) ∧
        Delivers (readPayment backend) size (listed backend query tenantId table.rows)
          (follow (paymentPage otherDates backend table.rows query context tenantId size) fuel none)) ∧
      ∀ dueBefore tenantId (table : MigrationTable) fuel, table.rows.length < fuel →
        (dueRows dueBefore tenantId table.rows).Perm (table.rows.filter (isDue dueBefore tenantId)) ∧
          ((dueRows dueBefore tenantId table.rows).Pairwise fun a b => dueTime a < dueTime b ∨ dueTime a = dueTime b ∧ a.id < b.id) ∧
          Delivers readMigration size (dueRows dueBefore tenantId table.rows)
            (follow (duePage otherDates table.rows dueBefore tenantId size) fuel none) := by
  refine ⟨fun backend query context tenantId table fuel enough => ⟨List.mergeSort_perm _ _,listed_newest backend query tenantId table,?_⟩,
    fun dueBefore tenantId table fuel enough => ⟨List.mergeSort_perm _ _,dueRows_soonest dueBefore tenantId table,?_⟩⟩
  · exact payments_delivered otherDates backend query context tenantId positive table enough
  · exact due_delivered otherDates dueBefore tenantId positive table enough

def createdPayment (id : String) (time : Int) : Payment := {sample id (some acme) with createdAt := time}

-- Two payments of one moment, and a newer one.
def threePayments : PaymentTable where
  rows := [createdPayment "a" 5,createdPayment "c" 7,createdPayment "b" 5]
  keyed := by decide
  apart := by decide
  named := by decide
  dated := by decide

def scheduledMigration (id : String) (time : Int) : Migrations.Migration :=
  ⟨id,"","s",some "s",.scheduled time,none,0,.scheduled,0,none,none,none,some 0,none,none,none,none,none,none,none,none,none,none,0⟩

def twoMigrations : MigrationTable where
  rows := [scheduledMigration "b" 3,scheduledMigration "a" 3]
  keyed := by decide
  named := by decide
  dated := by
    intro row inside time its
    simp only [List.mem_cons,List.not_mem_nil,or_false] at inside
    rcases inside with rfl | rfl <;> cases its <;> rfl

def anyPayment : PaymentListQuery := ⟨0,none,none,none,none,none,none,none,none⟩

theorem collections_complete_three :
    (∃ pages, follow (paymentPage (fun _ => none) plainBackend threePayments.rows anyPayment unfiltered (some acme) 2) 4 none = .ok pages ∧
      Complete 2 [createdPayment "c" 7,createdPayment "b" 5,createdPayment "a" 5] pages) ∧
    ∃ pages, follow (duePage (fun _ => none) twoMigrations.rows 3 none 2) 3 none = .ok pages ∧
      Complete 2 [scheduledMigration "a" 3,scheduledMigration "b" 3] pages := by
  obtain ⟨payments,migrations⟩ := collections_complete 2 (by decide) fun _ => none
  obtain ⟨_,_,delivered⟩ := payments plainBackend anyPayment unfiltered (some acme) threePayments 4 (by decide)
  obtain ⟨_,_,delivered'⟩ := migrations 3 none twoMigrations 3 (by decide)
  have three : listed plainBackend anyPayment (some acme) threePayments.rows = [createdPayment "c" 7,createdPayment "b" 5,createdPayment "a" 5] := by
    have found : threePayments.rows.filter (isListed plainBackend anyPayment (some acme)) = threePayments.rows := by rfl
    rw [listed,found]
    simp [threePayments,List.mergeSort,newestFirst,createdPayment,sample]
  have two : dueRows 3 none twoMigrations.rows = [scheduledMigration "a" 3,scheduledMigration "b" 3] := by
    have found : twoMigrations.rows.filter (isDue 3 none) = twoMigrations.rows := by rfl
    rw [dueRows,found]
    simp [twoMigrations,List.mergeSort,soonestFirst,scheduledMigration,dueTime,effectiveAt]
  rw [three] at delivered
  rw [two] at delivered'
  exact ⟨delivered.pages rfl,delivered'.pages rfl⟩

-- StoredPaymentResource.list, for the limits that it takes.
theorem list_delivers (otherDates : List Nat → Option Int) (backend : Backend) {input : ListStoredPaymentsInput} {tenantId : Option TenantId}
    (filtered : paymentFilters backend input tenantId = .ok (query,context)) (limited : normalizeCollectionLimit limit = some size)
    (table : PaymentTable) (enough : table.rows.length < fuel) :
    Delivers (readPayment backend) size (listed backend query tenantId table.rows)
      (follow (listPayments otherDates backend table.rows input tenantId limit) fuel none) := by
  have same : listPayments otherDates backend table.rows input tenantId limit = paymentPage otherDates backend table.rows query context tenantId size := by
    funext cursor
    rw [listPayments,filtered,limited]
    rfl
  rw [same]
  exact payments_delivered otherDates backend query context tenantId (limit_positive limited) table enough

theorem due_delivers (otherDates : List Nat → Option Int) {dueBefore : Int} (valid : validTime dueBefore = true) (tenantId : Option String)
    (limited : normalizeCollectionLimit limit = some size) (table : MigrationTable) (enough : table.rows.length < fuel) :
    Delivers readMigration size (dueRows dueBefore tenantId table.rows) (follow (due otherDates table.rows dueBefore tenantId limit) fuel none) := by
  have same : due otherDates table.rows dueBefore tenantId limit = duePage otherDates table.rows dueBefore tenantId size := by
    funext cursor
    rw [due,valid,limited]
    rfl
  rw [same]
  exact due_delivered otherDates dueBefore tenantId (limit_positive limited) table enough

end Payable.Collections
