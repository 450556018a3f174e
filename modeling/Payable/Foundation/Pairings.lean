import Mathlib.Data.List.Perm.Subperm
import Mathlib.Data.List.Nodup
import Mathlib.Data.Multiset.Basic

namespace Payable.Pairings

-- Members of two lists are paired in passes; a tag of its own tells each member from the others of
-- its list.
variable {A B S T K V : Type}

-- Every pair uses a member of either list that no other pair uses.
structure Sound (tag : A → S) (tag' : B → T) (lefts : List A) (rights : List B) (pairs : List (A × B)) : Prop where
  lefts : pairs.map Prod.fst ⊆ lefts
  rights : pairs.map Prod.snd ⊆ rights
  apart : ((pairs.map Prod.fst).map tag).Nodup
  apart' : ((pairs.map Prod.snd).map tag').Nodup

theorem sound_nil (tag : A → S) (tag' : B → T) (lefts : List A) (rights : List B) : Sound tag tag' lefts rights [] :=
  ⟨List.nil_subset _,List.nil_subset _,List.nodup_nil,List.nodup_nil⟩

-- The members that no pair has used.
def unused [DecidableEq S] (tag : A → S) (all used : List A) : List A := all.filter fun a => tag a ∉ used.map tag

section Unused

variable [DecidableEq S] [DecidableEq T] {tag : A → S} {all used more : List A}

theorem mem_unused : a ∈ unused tag all used ↔ a ∈ all ∧ tag a ∉ used.map tag := by
  unfold unused
  rw [List.mem_filter,decide_eq_true_eq]

-- With what is used, what is not makes up the list.
theorem unused_perm (apart : (all.map tag).Nodup) (subset : used ⊆ all) (apart' : (used.map tag).Nodup) : all.Perm (used ++ unused tag all used) := by
  have nodup : (used ++ unused tag all used).Nodup := by
    refine List.nodup_append.mpr ⟨apart'.of_map,apart.of_map.filter _,?_⟩
    rintro a first b second rfl
    exact (mem_unused.mp second).2 (List.mem_map_of_mem first)
  refine (List.perm_ext_iff_of_nodup apart.of_map nodup).mpr fun a => ?_
  rw [List.mem_append,mem_unused]
  refine ⟨fun inside => ?_,fun either => either.elim (fun first => subset first) And.left⟩
  by_cases taken : tag a ∈ used.map tag
  · obtain ⟨b,there,same⟩ := List.mem_map.mp taken
    exact .inl (List.inj_on_of_nodup_map apart (subset there) inside same ▸ there)
  · exact .inr ⟨inside,taken⟩

theorem unused_append : unused tag all (used ++ more) = unused tag (unused tag all used) more := by
  unfold unused
  rw [List.filter_filter]
  refine List.filter_congr fun a _ => ?_
  rw [List.map_append,Bool.eq_iff_iff]
  simp only [List.mem_append,decide_eq_true_eq,Bool.and_eq_true]
  tauto

-- More pairs, of members that were unused.
theorem sound_append {tag : A → S} {tag' : B → T} {lefts : List A} {rights : List B} {pairs extra : List (A × B)}
    (sound : Sound tag tag' lefts rights pairs) (lefts' : extra.map Prod.fst ⊆ unused tag lefts (pairs.map Prod.fst))
    (rights' : extra.map Prod.snd ⊆ unused tag' rights (pairs.map Prod.snd)) (apart : ((extra.map Prod.fst).map tag).Nodup)
    (apart' : ((extra.map Prod.snd).map tag').Nodup) : Sound tag tag' lefts rights (pairs ++ extra) := by
  refine ⟨?_,?_,?_,?_⟩
  · rw [List.map_append]
    exact List.append_subset.mpr ⟨sound.lefts,fun a inside => (mem_unused.mp (lefts' inside)).1⟩
  · rw [List.map_append]
    exact List.append_subset.mpr ⟨sound.rights,fun b inside => (mem_unused.mp (rights' inside)).1⟩
  · rw [List.map_append,List.map_append]
    refine List.nodup_append.mpr ⟨sound.apart,apart,?_⟩
    rintro s first s' second rfl
    obtain ⟨a,there,same⟩ := List.mem_map.mp second
    exact (mem_unused.mp (lefts' there)).2 (same ▸ first)
  · rw [List.map_append,List.map_append]
    refine List.nodup_append.mpr ⟨sound.apart',apart',?_⟩
    rintro t first t' second rfl
    obtain ⟨b,there,same⟩ := List.mem_map.mp second
    exact (mem_unused.mp (rights' there)).2 (same ▸ first)

end Unused

-- A pass over groups of the left list: where a group may be paired with the unused members of its
-- key, the two are paired in their orders.
structure Rules (A B K : Type) where
  key : A → K
  key' : B → K
  safe : List A → List B → Bool
  sort : List A → List A
  sort' : List B → List B
  sorts : ∀ xs, (sort xs).Perm xs
  sorts' : ∀ xs, (sort' xs).Perm xs
  even : ∀ xs ys, safe xs ys = true → xs.length = ys.length

-- What two groups are paired to.
def paired (rules : Rules A B K) (group : List A) (others : List B) : List (A × B) :=
  if rules.safe group others = true then (rules.sort group).zip (rules.sort' others) else []

section Paired

variable {rules : Rules A B K} {group : List A} {others : List B}

theorem paired_fst : (paired rules group others).map Prod.fst =
    if rules.safe group others = true then rules.sort group else [] := by
  unfold paired
  split
  · rename_i safe
    refine List.map_fst_zip ?_
    rw [(rules.sorts _).length_eq,(rules.sorts' _).length_eq,rules.even _ _ safe]
  · rfl

theorem paired_snd : (paired rules group others).map Prod.snd =
    if rules.safe group others = true then rules.sort' others else [] := by
  unfold paired
  split
  · rename_i safe
    refine List.map_snd_zip ?_
    rw [(rules.sorts _).length_eq,(rules.sorts' _).length_eq,rules.even _ _ safe]
  · rfl

theorem paired_members (rules : Rules A B K) (group : List A) (others : List B) : (paired rules group others).map Prod.fst ⊆ group ∧
    (paired rules group others).map Prod.snd ⊆ others := by
  rw [paired_fst,paired_snd]
  split
  · exact ⟨(rules.sorts _).subset,(rules.sorts' _).subset⟩
  · exact ⟨List.nil_subset _,List.nil_subset _⟩

theorem paired_apart (rules : Rules A B K) {tag : A → S} {tag' : B → T} (apart : (group.map tag).Nodup) (apart' : (others.map tag').Nodup) :
    (((paired rules group others).map Prod.fst).map tag).Nodup ∧ (((paired rules group others).map Prod.snd).map tag').Nodup := by
  rw [paired_fst,paired_snd]
  split
  · exact ⟨((rules.sorts _).map tag).nodup_iff.mpr apart,((rules.sorts' _).map tag').nodup_iff.mpr apart'⟩
  · exact ⟨List.nodup_nil,List.nodup_nil⟩

end Paired

section Pass

variable [DecidableEq S] [DecidableEq T] [DecidableEq K] (rules : Rules A B K) (tag' : B → T) (rights : List B)

def others (pairs : List (A × B)) (key : K) : List B := (unused tag' rights (pairs.map Prod.snd)).filter (rules.key' · = key)

def found (pairs : List (A × B)) (group : K × List A) : List (A × B) := paired rules group.2 (others rules tag' rights pairs group.1)

def pairGroup (pairs : List (A × B)) (group : K × List A) : List (A × B) := pairs ++ found rules tag' rights pairs group

variable {rules tag' rights}

theorem mem_others {pairs : List (A × B)} : b ∈ others rules tag' rights pairs key ↔ b ∈ unused tag' rights (pairs.map Prod.snd) ∧ rules.key' b = key := by
  unfold others
  rw [List.mem_filter,decide_eq_true_eq]

-- What a group has used has another key than the next group's.
theorem others_found {pairs : List (A × B)} {group : K × List A} (apart' : (rights.map tag').Nodup) (other : key ≠ group.1) :
    others rules tag' rights (pairs ++ found rules tag' rights pairs group) key = others rules tag' rights pairs key := by
  have kept : ∀ b ∈ unused tag' rights (pairs.map Prod.snd), rules.key' b = key →
      tag' b ∉ ((found rules tag' rights pairs group).map Prod.snd).map tag' := by
    intro b inside its used
    obtain ⟨b',there,same⟩ := List.mem_map.mp used
    obtain ⟨unused_,key⟩ := mem_others.mp ((paired_members rules _ _).2 there)
    cases List.inj_on_of_nodup_map apart' (mem_unused.mp unused_).1 (mem_unused.mp inside).1 same
    exact other (its.symm.trans key)
  unfold others
  rw [List.map_append,unused_append]
  generalize (found rules tag' rights pairs group).map Prod.snd = used at kept
  unfold unused at kept ⊢
  rw [List.filter_filter]
  refine List.filter_congr fun b inside => ?_
  by_cases its : rules.key' b = key
  · rw [decide_eq_true (kept b inside its),Bool.and_true]
  · rw [decide_eq_false its,Bool.false_and]

-- The pass finds for each group what it finds at its start.
theorem pass_found {groups : List (K × List A)} (apart' : (rights.map tag').Nodup) (keys : (groups.map Prod.fst).Nodup) (pairs : List (A × B)) :
    groups.foldl (pairGroup rules tag' rights) pairs = pairs ++ groups.flatMap (found rules tag' rights pairs) := by
  induction groups generalizing pairs with
  | nil => simp
  | cons group rest ih =>
      rw [List.map_cons,List.nodup_cons] at keys
      rw [List.foldl_cons,ih keys.2,List.flatMap_cons,← List.append_assoc]
      refine congrArg _ (List.flatMap_congr fun other inside => ?_)
      have apart : other.1 ≠ group.1 := fun same => keys.1 (same ▸ List.mem_map_of_mem inside)
      show paired rules other.2 (others rules tag' rights (pairs ++ found rules tag' rights pairs group) other.1) = _
      rw [others_found apart' apart]
      rfl

-- Each pair of a pass is of one group and of a member of the group's key.
theorem pass_members {groups : List (K × List A)} {pairs : List (A × B)} (apart' : (rights.map tag').Nodup) (keys : (groups.map Prod.fst).Nodup)
    (inside : pair ∈ groups.foldl (pairGroup rules tag' rights) pairs) :
    pair ∈ pairs ∨ ∃ group ∈ groups, pair.1 ∈ group.2 ∧ rules.key' pair.2 = group.1 := by
  rw [pass_found apart' keys] at inside
  rcases List.mem_append.mp inside with before | new
  · exact .inl before
  · obtain ⟨group,there,its⟩ := List.mem_flatMap.mp new
    have first := (paired_members rules _ _).1 (List.mem_map_of_mem its)
    have second := (paired_members rules _ _).2 (List.mem_map_of_mem its)
    exact .inr ⟨group,there,first,(mem_others.mp second).2⟩

theorem pass_sound {tag : A → S} {lefts : List A} {groups : List (K × List A)} {pairs : List (A × B)} (sound : Sound tag tag' lefts rights pairs)
    (apart' : (rights.map tag').Nodup) (members : ∀ group ∈ groups, group.2 ⊆ unused tag lefts (pairs.map Prod.fst))
    (apart : ((groups.flatMap (·.2)).map tag).Nodup) : Sound tag tag' lefts rights (groups.foldl (pairGroup rules tag' rights) pairs) := by
  induction groups generalizing pairs with
  | nil => exact sound
  | cons group rest ih =>
      rw [List.flatMap_cons,List.map_append] at apart
      obtain ⟨own,rest_apart,across⟩ := List.nodup_append.mp apart
      have rights_apart : ((others rules tag' rights pairs group.1).map tag').Nodup :=
        apart'.sublist ((List.filter_sublist.trans List.filter_sublist).map tag')
      have nodups := paired_apart rules own rights_apart
      have inside := paired_members rules group.2 (others rules tag' rights pairs group.1)
      refine ih ?_ ?_ rest_apart
      · refine sound_append sound (List.Subset.trans inside.1 (members group List.mem_cons_self)) (fun b there => ?_) nodups.1 nodups.2
        exact (mem_others.mp (inside.2 there)).1
      · intro other there a its
        have before := members other (List.mem_cons_of_mem _ there) its
        rw [pairGroup,List.map_append,unused_append]
        refine mem_unused.mpr ⟨before,fun used => ?_⟩
        obtain ⟨a',found,same⟩ := List.mem_map.mp used
        have here : tag a' ∈ group.2.map tag := List.mem_map_of_mem (inside.1 found)
        have elsewhere : tag a ∈ (rest.flatMap (·.2)).map tag := List.mem_map_of_mem (List.mem_flatMap.mpr ⟨other,there,its⟩)
        exact across _ here _ elsewhere same

end Pass

-- Pairs that are the same but for their order and what a view of the right members leaves out.
def Alike (view : B → V) (pairs pairs' : List (A × B)) : Prop := (pairs.map fun p => (p.1,view p.2)).Perm (pairs'.map fun p => (p.1,view p.2))

section Alike

variable {view : B → V} {tag : A → S} {tag' : B → T} {lefts lefts' : List A} {rights rights' : List B} {pairs pairs' : List (A × B)}

theorem alike_fst (alike : Alike view pairs pairs') : (pairs.map Prod.fst).Perm (pairs'.map Prod.fst) := by
  have first := alike.map Prod.fst
  rw [List.map_map,List.map_map] at first
  exact first

theorem alike_snd (alike : Alike view pairs pairs') : ((pairs.map Prod.snd).map view).Perm ((pairs'.map Prod.snd).map view) := by
  have second := alike.map Prod.snd
  rw [List.map_map,List.map_map] at second
  rw [List.map_map,List.map_map]
  exact second

theorem alike_lefts [DecidableEq S] (alike : Alike view pairs pairs') (same : lefts.Perm lefts') :
    (unused tag lefts (pairs.map Prod.fst)).Perm (unused tag lefts' (pairs'.map Prod.fst)) := by
  have tags := (alike_fst alike).map tag
  have agree : (fun a => decide (tag a ∉ (pairs.map Prod.fst).map tag)) = fun a => decide (tag a ∉ (pairs'.map Prod.fst).map tag) :=
    funext fun a => by rw [decide_eq_decide,tags.mem_iff]
  unfold unused
  rw [agree]
  exact same.filter _

theorem alike_rights [DecidableEq T] (alike : Alike view pairs pairs') (sound : Sound tag tag' lefts rights pairs) (sound' : Sound tag tag' lefts' rights' pairs')
    (apart : (rights.map tag').Nodup) (apart' : (rights'.map tag').Nodup) (same : (rights.map view).Perm (rights'.map view)) :
    ((unused tag' rights (pairs.map Prod.snd)).map view).Perm ((unused tag' rights' (pairs'.map Prod.snd)).map view) := by
  have whole := (unused_perm apart sound.rights sound.apart').map view
  have whole' := (unused_perm apart' sound'.rights sound'.apart').map view
  rw [List.map_append] at whole whole'
  have both := (whole.symm.trans same).trans whole'
  exact (List.perm_append_left_iff _).mp (both.trans ((alike_snd alike).symm.append_right _))

-- Rules that see of the right members only what the view shows, and of orders nothing.
structure Blind (rules : Rules A B K) (view : B → V) (lefts : List A) (rights : List B) : Prop where
  key : ∃ read_ : V → K, ∀ b, rules.key' b = read_ (view b)
  safe : ∀ group group' others others', group.Perm group' → (others.map view).Perm (others'.map view) →
    rules.safe group others = rules.safe group' others'
  sort : ∀ group group', group.Sublist lefts → group.Perm group' → rules.sort group = rules.sort group'
  sort' : ∀ group others others', others.Sublist rights → rules.safe group others = true → (others.map view).Perm (others'.map view) →
    (rules.sort' others).map view = (rules.sort' others').map view

variable {rules : Rules A B K}

theorem paired_alike (blind : Blind rules view lefts rights) {group group' : List A} {others others' : List B} (inside : group.Sublist lefts)
    (inside' : others.Sublist rights) (same : group.Perm group') (same' : (others.map view).Perm (others'.map view)) :
    (paired rules group others).map (fun p => (p.1,view p.2)) = (paired rules group' others').map fun p => (p.1,view p.2) := by
  unfold paired
  rw [← blind.safe group group' others others' same same']
  split
  · rename_i safe
    have zipped (xs : List A) (ys : List B) : (xs.zip ys).map (fun p => (p.1,view p.2)) = xs.zip (ys.map view) := by
      rw [List.zip_map_right]
      rfl
    rw [zipped,zipped,blind.sort group group' inside same,blind.sort' group others others' inside' safe same']
  · rfl

theorem others_alike [DecidableEq T] [DecidableEq K] (blind : Blind rules view lefts rights)
    (same : ((unused tag' rights (pairs.map Prod.snd)).map view).Perm ((unused tag' rights' (pairs'.map Prod.snd)).map view)) (key : K) :
    ((others rules tag' rights pairs key).map view).Perm ((others rules tag' rights' pairs' key).map view) := by
  obtain ⟨read_,its⟩ := blind.key
  have seen (bs : List B) : (bs.filter (rules.key' · = key)).map view = (bs.map view).filter (read_ · = key) := by
    rw [List.filter_map]
    refine congrArg _ (List.filter_congr fun b _ => ?_)
    rw [Function.comp_apply,its]
  unfold others
  rw [seen,seen]
  exact same.filter _

-- A pass over groups that are the same but for their orders finds pairs that are alike.
theorem pass_alike [DecidableEq T] [DecidableEq K] (blind : Blind rules view lefts rights) {keys keys' : List K} {group group' : K → List A}
    (alike : Alike view pairs pairs')
    (same : ((unused tag' rights (pairs.map Prod.snd)).map view).Perm ((unused tag' rights' (pairs'.map Prod.snd)).map view))
    (apart : (rights.map tag').Nodup) (apart' : (rights'.map tag').Nodup) (keys_apart : keys.Nodup) (keys_same : keys.Perm keys')
    (groups : ∀ key, (group key).Sublist lefts ∧ (group key).Perm (group' key)) :
    Alike view ((keys.map fun key => (key,group key)).foldl (pairGroup rules tag' rights) pairs)
      ((keys'.map fun key => (key,group' key)).foldl (pairGroup rules tag' rights') pairs') := by
  have names (keys : List K) (group : K → List A) : (keys.map fun key => (key,group key)).map Prod.fst = keys := by
    rw [List.map_map]
    exact List.map_id _
  rw [pass_found apart (by rw [names]; exact keys_apart),pass_found apart' (by rw [names]; exact keys_same.nodup_iff.mp keys_apart)]
  unfold Alike
  rw [List.map_append,List.map_append]
  refine List.Perm.append alike ?_
  rw [List.flatMap_map,List.flatMap_map,List.map_flatMap,List.map_flatMap]
  have each (key : K) : (found rules tag' rights pairs (key,group key)).map (fun p => (p.1,view p.2)) =
      (found rules tag' rights' pairs' (key,group' key)).map fun p => (p.1,view p.2) := by
    have within_ : (others rules tag' rights pairs key).Sublist rights := List.filter_sublist.trans List.filter_sublist
    exact paired_alike blind (groups key).1 within_ (groups key).2 (others_alike blind same key)
  simp only [each]
  exact keys_same.flatMap_right _

end Alike

-- The last pair, where one member of either list is left.
def pairLast [DecidableEq S] [DecidableEq T] (tag : A → S) (tag' : B → T) (lefts : List A) (rights : List B) (pairs : List (A × B)) : List (A × B) :=
  match unused tag lefts (pairs.map Prod.fst),unused tag' rights (pairs.map Prod.snd) with
  | [a],[b] => pairs ++ [(a,b)]
  | _,_ => pairs

section Last

variable [DecidableEq S] [DecidableEq T] {view : B → V} {tag : A → S} {tag' : B → T} {lefts lefts' : List A} {rights rights' : List B}
  {pairs pairs' : List (A × B)}

theorem pairLast_sound (sound : Sound tag tag' lefts rights pairs) : Sound tag tag' lefts rights (pairLast tag tag' lefts rights pairs) := by
  unfold pairLast
  split
  · rename_i a b left right
    refine sound_append sound ?_ ?_ (List.nodup_singleton _) (List.nodup_singleton _)
    · rw [left]
      exact List.Subset.refl _
    · rw [right]
      exact List.Subset.refl _
  · exact sound

theorem pairLast_keeps (inside : pair ∈ pairs) : pair ∈ pairLast tag tag' lefts rights pairs := by
  unfold pairLast
  split
  · exact List.mem_append_left _ inside
  · exact inside

theorem pairLast_alike (alike : Alike view pairs pairs')
    (left : (unused tag lefts (pairs.map Prod.fst)).Perm (unused tag lefts' (pairs'.map Prod.fst)))
    (right : ((unused tag' rights (pairs.map Prod.snd)).map view).Perm ((unused tag' rights' (pairs'.map Prod.snd)).map view)) :
    Alike view (pairLast tag tag' lefts rights pairs) (pairLast tag tag' lefts' rights' pairs') := by
  unfold pairLast
  generalize unused tag lefts (pairs.map Prod.fst) = xs at left
  generalize unused tag lefts' (pairs'.map Prod.fst) = xs' at left
  generalize unused tag' rights (pairs.map Prod.snd) = ys at right
  generalize unused tag' rights' (pairs'.map Prod.snd) = ys' at right
  have same := left.length_eq
  have same' := right.length_eq
  rw [List.length_map,List.length_map] at same'
  split
  · rename_i a b
    obtain ⟨a',rfl⟩ := List.length_eq_one_iff.mp same.symm
    obtain ⟨b',rfl⟩ := List.length_eq_one_iff.mp same'.symm
    cases List.singleton_perm_singleton.mp left
    have seen : view b = view b' := List.singleton_perm_singleton.mp right
    unfold Alike
    rw [List.map_append,List.map_append]
    refine alike.append ?_
    rw [List.map_singleton,List.map_singleton,seen]
  · rename_i others
    split
    · rename_i a' b'
      obtain ⟨a,rfl⟩ := List.length_eq_one_iff.mp same
      obtain ⟨b,rfl⟩ := List.length_eq_one_iff.mp same'
      exact absurd rfl (others a b rfl)
    · exact alike

end Last

end Payable.Pairings
