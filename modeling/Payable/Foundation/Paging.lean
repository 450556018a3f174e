import Payable.Foundation.Checked
import Mathlib.Data.List.Basic

namespace Payable.Paging

-- A page of a collection, and the pages that a reader gets who asks for the next one as long as there is one.
structure Page (Item Cursor : Type) where
  items : List Item
  hasMore : Bool
  nextCursor : Option Cursor

variable {Row Item Cursor Error : Type} {size : Nat} {items : List Item}

def follow (fetch : Option Cursor → Except Error (Page Item Cursor)) : Nat → Option Cursor → Except Error (List (Page Item Cursor))
  | 0,_ => .ok []
  | fuel + 1,cursor => do
    let page ← fetch cursor
    match page.nextCursor with
    | none => return [page]
    | some next => (follow fetch fuel (some next)).map (page :: ·)

-- All items once and in their order, in full pages up to the last one, which says that it is the last.
structure Complete (size : Nat) (items : List Item) (pages : List (Page Item Cursor)) : Prop where
  items : pages.flatMap Page.items = items
  last : ∃ full final, pages = full ++ [final] ∧ final.hasMore = false ∧ ∀ page ∈ full, page.hasMore = true ∧ page.items.length = size

theorem complete_single (page : Page Item Cursor) (over_ : page.hasMore = false) : Complete size page.items [page] :=
  ⟨by simp,[],page,rfl,over_,nofun⟩

theorem Complete.cons {pages : List (Page Item Cursor)} (complete : Complete size items pages) (page : Page Item Cursor)
    (more : page.hasMore = true) (full : page.items.length = size) : Complete size (page.items ++ items) (page :: pages) := by
  obtain ⟨others,final,shape,ends,fulls⟩ := complete.last
  refine ⟨by rw [List.flatMap_cons,complete.items],page :: others,final,by rw [shape,List.cons_append],ends,?_⟩
  intro other inside
  rcases List.mem_cons.mp inside with rfl | inside
  · exact ⟨more,full⟩
  · exact fulls other inside

variable (toItem : Row → Except Error Item) (cursorOf : Item → Except Error (Option Cursor))

-- A cursor at the last item where there are more.
def nextOf (hasMore : Bool) (items : List Item) : Except Error (Option Cursor) :=
  match items.getLast? with
  | some last => if hasMore then cursorOf last else .ok none
  | none => .ok none

-- The page of so many rows.
def pageOf (size : Nat) (rows : List Row) : Except Error (Page Item Cursor) := do
  let items ← (rows.take size).mapM toItem
  let nextCursor ← nextOf cursorOf (decide (size < rows.length)) items
  return ⟨items,decide (size < rows.length),nextCursor⟩

-- The pages of the rows, or the error of the first row that is no item.
def Delivers (size : Nat) (rows : List Row) (ran : Except Error (List (Page Item Cursor))) : Prop :=
  match rows.mapM toItem with
  | .error error => ran = .error error
  | .ok items => ∃ pages, ran = .ok pages ∧ Complete size items pages

theorem Delivers.pages {rows : List Row} {ran : Except Error (List (Page Item Cursor))} {toItem : Row → Except Error Item}
    (delivers : Delivers toItem size rows ran) (read : rows.mapM toItem = .ok items) : ∃ pages, ran = .ok pages ∧ Complete size items pages := by
  rw [Delivers,read] at delivers
  exact delivers

theorem mapM_length {items : List Item} (rows : List Row) (done : rows.mapM toItem = .ok items) : items.length = rows.length := by
  induction rows generalizing items with
  | nil =>
      cases done
      rfl
  | cons row rest ih =>
      rw [List.mapM_cons] at done
      obtain ⟨item,_,done⟩ := Checked.bind_ok.mp done
      obtain ⟨others,mapped,done⟩ := Checked.bind_ok.mp done
      cases done
      rw [List.length_cons,ih mapped,List.length_cons]

theorem pageOf_last {rows : List Row} (fits : rows.length ≤ size) (done : rows.mapM toItem = .ok items) :
    pageOf toItem cursorOf size rows = .ok ⟨items,false,none⟩ := by
  have over_ : decide (size < rows.length) = false := decide_eq_false (Nat.not_lt.mpr fits)
  have next : nextOf cursorOf false items = .ok none := by
    unfold nextOf
    split <;> rfl
  rw [pageOf,List.take_of_length_le fits,done,over_]
  simp only [bind,Except.bind,next]
  rfl

theorem pageOf_refused {rows : List Row} (refused : (rows.take size).mapM toItem = .error error) :
    pageOf toItem cursorOf size rows = .error error := by
  rw [pageOf,refused]
  rfl

theorem pageOf_more {front rest : List Row} (length : (front ++ [row]).length = size) (more : rest ≠ [])
    (done : (front ++ [row]).mapM toItem = .ok items) :
    ∃ item, toItem row = .ok item ∧ ∀ cursor, cursorOf item = .ok (some cursor) →
      pageOf toItem cursorOf size (front ++ row :: rest) = .ok ⟨items,true,some cursor⟩ := by
  have shape : front ++ row :: rest = (front ++ [row]) ++ rest := by rw [List.append_assoc,List.singleton_append]
  have cut : (front ++ row :: rest).take size = front ++ [row] := by rw [shape,List.take_left' length]
  have longer : decide (size < (front ++ row :: rest).length) = true := by
    rw [shape,List.length_append,length]
    exact decide_eq_true (Nat.lt_add_of_pos_right (List.length_pos_iff.mpr more))
  have whole := done
  rw [List.mapM_append] at done
  obtain ⟨firsts,_,done⟩ := Checked.bind_ok.mp done
  obtain ⟨lasts,last,done⟩ := Checked.bind_ok.mp done
  rw [List.mapM_cons] at last
  obtain ⟨item,its,last⟩ := Checked.bind_ok.mp last
  obtain rfl : [item] = lasts := Except.ok.inj last
  obtain rfl : firsts ++ [item] = items := Except.ok.inj done
  refine ⟨item,its,fun cursor known => ?_⟩
  have next : nextOf cursorOf true (firsts ++ [item]) = .ok (some cursor) := by
    simp only [nextOf,List.getLast?_concat,known]
    rfl
  rw [pageOf,cut,whole,longer]
  simp only [bind,Except.bind,next]
  rfl

theorem delivers_last {fetch : Option Cursor → Except Error (Page Item Cursor)} {rows : List Row} (fits : rows.length ≤ size)
    (fetched : fetch start = pageOf toItem cursorOf size rows) : Delivers toItem size rows (follow fetch (fuel + 1) start) := by
  unfold Delivers
  cases done : rows.mapM toItem with
  | error error =>
      have refused : (rows.take size).mapM toItem = .error error := by rw [List.take_of_length_le fits,done]
      rw [follow,fetched,pageOf_refused toItem cursorOf refused]
      rfl
  | ok items =>
      rw [follow,fetched,pageOf_last toItem cursorOf fits done]
      exact ⟨_,rfl,complete_single ⟨items,false,none⟩ rfl⟩

theorem delivers_refused {fetch : Option Cursor → Except Error (Page Item Cursor)} {first rest : List Row}
    (refused : first.mapM toItem = .error error) (fetched : fetch start = .error error) :
    Delivers toItem size (first ++ rest) (follow fetch (fuel + 1) start) := by
  rw [Delivers,List.mapM_append,refused]
  show follow fetch (fuel + 1) start = .error error
  rw [follow,fetched]
  rfl

theorem delivers_more {fetch : Option Cursor → Except Error (Page Item Cursor)} {first rest : List Row} {next : Cursor}
    (done : first.mapM toItem = .ok items) (full : first.length = size) (fetched : fetch start = .ok ⟨items,true,some next⟩)
    (others : Delivers toItem size rest (follow fetch fuel (some next))) :
    Delivers toItem size (first ++ rest) (follow fetch (fuel + 1) start) := by
  have ran : follow fetch (fuel + 1) start = (follow fetch fuel (some next)).map (⟨items,true,some next⟩ :: ·) := by
    rw [follow,fetched]
    rfl
  have length : items.length = size := (mapM_length toItem _ done).trans full
  rw [Delivers,List.mapM_append,done,ran]
  unfold Delivers at others
  cases last : rest.mapM toItem with
  | error error =>
      rw [last] at others
      dsimp only at others
      rw [others]
      rfl
  | ok items' =>
      rw [last] at others
      obtain ⟨pages,followed,complete⟩ := others
      rw [followed]
      exact ⟨_,rfl,complete.cons ⟨items,true,some next⟩ rfl length⟩

-- What a reader gets who starts at a cursor after which the suffix comes, where each cursor resumes behind its row.
theorem follow_delivers (positive : 1 ≤ size) {fetch : Option Cursor → Except Error (Page Item Cursor)} {rows : List Row}
    (resumes : ∀ before row after, rows = before ++ row :: after → ∀ item, toItem row = .ok item →
      ∃ cursor, cursorOf item = .ok (some cursor) ∧ fetch (some cursor) = pageOf toItem cursorOf size after)
    (fuel : Nat) : ∀ before suffix start, rows = before ++ suffix → fetch start = pageOf toItem cursorOf size suffix → suffix.length < fuel →
      Delivers toItem size suffix (follow fetch fuel start) := by
  induction fuel with
  | zero => exact fun _ _ _ _ _ short => absurd short (Nat.not_lt_zero _)
  | succ fuel ih =>
      intro before suffix start shape fetched enough
      by_cases fits : suffix.length ≤ size
      · exact delivers_last toItem cursorOf fits fetched
      have length : (suffix.take size).length = size := List.length_take_of_le (by omega)
      have more : suffix.drop size ≠ [] := fun none => fits (List.drop_eq_nil_iff.mp none)
      have some_ : suffix.take size ≠ [] := List.length_pos_iff.mp (by omega)
      rw [← List.take_append_drop size suffix]
      cases first : (suffix.take size).mapM toItem with
      | error error => exact delivers_refused toItem first (fetched.trans (pageOf_refused toItem cursorOf first))
      | ok items =>
          obtain ⟨front,row,cut⟩ : ∃ front row, suffix.take size = front ++ [row] := ⟨_,_,(List.dropLast_append_getLast some_).symm⟩
          have whole : front ++ row :: suffix.drop size = suffix := by
            have parts := List.take_append_drop size suffix
            rw [cut] at parts
            simpa using parts
          obtain ⟨item,its,page⟩ := pageOf_more toItem cursorOf (cut ▸ length) more (cut ▸ first)
          have place : rows = (before ++ front) ++ row :: suffix.drop size := by rw [shape,List.append_assoc,whole]
          obtain ⟨cursor,known,resumed⟩ := resumes _ _ _ place item its
          have shorter : (suffix.drop size).length < fuel := by
            rw [List.length_drop]
            omega
          refine delivers_more toItem first length (fetched.trans ((congrArg _ whole.symm).trans (page cursor known))) ?_
          exact ih (before ++ front ++ [row]) _ _ (by rw [place]; simp) resumed shorter

theorem follow_rows (positive : 1 ≤ size) {fetch : Option Cursor → Except Error (Page Item Cursor)} {rows : List Row}
    (resumes : ∀ before row after, rows = before ++ row :: after → ∀ item, toItem row = .ok item →
      ∃ cursor, cursorOf item = .ok (some cursor) ∧ fetch (some cursor) = pageOf toItem cursorOf size after)
    (started : fetch none = pageOf toItem cursorOf size rows) (enough : rows.length < fuel) :
    Delivers toItem size rows (follow fetch fuel none) :=
  follow_delivers toItem cursorOf positive resumes fuel [] rows none rfl started enough

end Payable.Paging
