import Payable.Amounts.Division
import Mathlib.Algebra.BigOperators.Group.List.Basic
import Mathlib.Algebra.Order.BigOperators.Group.List
import Mathlib.Algebra.BigOperators.Ring.List
import Mathlib.Data.List.GetD

namespace Payable.Amounts
open Binary64 Doubles

def assertSafeMinor (amount : Rat) (context : String) : Except MoneyError Unit :=
  if isSafeInteger amount = true then .ok () else .error (.exceeds context amount)

def portion (amount total ratio : Rat) : Except MoneyError Rat := do
  assertSafeMinor (times amount ratio) "allocation product"
  return trunc (divided (times amount ratio) total)

def eligible (ratios : List Rat) : List Nat := (ratios.zipIdx.filter fun (ratio,_) => decide (0 < ratio)).map Prod.snd

-- One unit after the other, to a share each in turn; nothing when the rounds do not suffice.
def spread (targets : List Nat) (step : Rat) : Nat → Nat → Rat → List Rat → Option (List Rat)
  | rounds,cursor,remainder,shares =>
    if remainder = 0 then some shares
    else
      match rounds with
      | 0 => none
      | rounds + 1 =>
          let target := targets.getD (cursor % targets.length) 0
          spread targets step rounds (cursor + 1) (minus remainder step) (shares.set target (plus (shares.getD target 0) step))

variable {registry : Registry}

def Money.allocate (rounds : Nat) (money : Money registry) (ratios : List Rat) : Option (Except MoneyError (List (Money registry))) :=
  if ratios = [] then some (.error .noRatios)
  else if ratios.any (fun ratio => decide (ratio < 0)) = true then some (.error .negativeRatio)
  else
    let total := ratios.foldl plus 0
    if total ≤ 0 then some (.error .noTotal)
    else
      match ratios.mapM (portion money.amount total) with
      | .error failed => some (.error failed)
      | .ok shares =>
          let remainder := minus money.amount (shares.foldl plus 0)
          let step : Rat := if 0 ≤ remainder then 1 else -1
          (spread (eligible ratios) step rounds 0 remainder shares).map fun shares => shares.mapM fun share => Money.of registry share money.code

theorem eligible_sublist (ratios : List Rat) : (eligible ratios).Sublist (List.range ratios.length) := by
  have indices : ratios.zipIdx.map Prod.snd = List.range ratios.length := by
    rw [List.zipIdx_map_snd,List.range_eq_range']
  rw [← indices]
  exact List.Sublist.map _ List.filter_sublist

theorem mem_eligible {ratios : List Rat} {index : Nat} : index ∈ eligible ratios ↔ ∃ ratio, ratios[index]? = some ratio ∧ 0 < ratio := by
  unfold eligible
  constructor
  · intro listed
    obtain ⟨⟨ratio,its⟩,chosen,rfl⟩ := List.mem_map.mp listed
    obtain ⟨member,positive⟩ := List.mem_filter.mp chosen
    exact ⟨ratio,List.mk_mem_zipIdx_iff_getElem?.mp member,of_decide_eq_true positive⟩
  · rintro ⟨ratio,its,positive⟩
    exact List.mem_map.mpr ⟨(ratio,index),List.mem_filter.mpr ⟨List.mk_mem_zipIdx_iff_getElem?.mpr its,decide_eq_true positive⟩,rfl⟩

theorem eligible_length (ratios : List Rat) : (eligible ratios).length = ratios.countP fun ratio => decide (0 < ratio) := by
  unfold eligible
  rw [List.length_map,← List.countP_eq_length_filter]
  have firsts := List.countP_map (p := fun ratio : Rat => decide (0 < ratio)) (f := Prod.fst) (l := ratios.zipIdx)
  rw [List.zipIdx_map_fst] at firsts
  exact firsts.symm

-- The shares after the first rounds.
def handed (base : List Int) (targets : List Nat) (step : Int) (cursor : Nat) : List Int :=
  base.mapIdx fun index share => if index ∈ targets.take cursor then share + step else share

theorem handed_none (base : List Int) (targets : List Nat) (step : Int) : handed base targets step 0 = base := by
  refine List.ext_getElem (by simp [handed]) ?_
  intro index left right
  simp [handed]

theorem handed_next {base : List Int} {targets : List Nat} {step : Int} {cursor : Nat}
    (more : cursor < targets.length) (within_ : targets[cursor] < base.length) :
    handed base targets step (cursor + 1) = (handed base targets step cursor).set targets[cursor] (base[targets[cursor]] + step) := by
  refine List.ext_getElem (by simp [handed]) ?_
  intro index left right
  simp only [handed,List.getElem_mapIdx,List.getElem_set,List.take_add_one,List.getElem?_eq_getElem more,Option.toList_some,
    List.mem_append,List.mem_singleton]
  by_cases its : targets[cursor] = index
  · subst its
    simp
  · have other : index ≠ targets[cursor] := Ne.symm its
    simp [other,its]

theorem unhanded {targets : List Nat} {cursor : Nat} (distinct : targets.Nodup) (more : cursor < targets.length) :
    targets[cursor] ∉ targets.take cursor := by
  intro earlier
  obtain ⟨place,low,same⟩ := List.mem_take_iff_getElem.mp earlier
  have equal := (List.Nodup.getElem_inj_iff distinct).mp same
  omega

theorem handed_sum {base : List Int} {targets : List Nat} {step : Int} (distinct : targets.Nodup)
    (within_ : ∀ target ∈ targets, target < base.length) (cursor : Nat) (enough : cursor ≤ targets.length) :
    (handed base targets step cursor).sum = base.sum + step * cursor := by
  induction cursor with
  | zero => simp [handed_none]
  | succ cursor ih =>
      have more : cursor < targets.length := by omega
      have place := within_ _ (List.getElem_mem more)
      have place' : targets[cursor] < (handed base targets step cursor).length := by simpa [handed] using place
      have current : (handed base targets step cursor)[targets[cursor]] = base[targets[cursor]] := by
        simp [handed,unhanded distinct more]
      rw [handed_next more place,List.sum_set',dif_pos place',current,ih (by omega)]
      push_cast
      ring

theorem plus_int {a b : Int} (small : (a + b).natAbs < 2 ^ 53) : plus a b = ((a + b : Int) : Rat) := by
  have exact_ := round_small _ small
  unfold plus
  exact_mod_cast exact_

theorem minus_int {a b : Int} (small : (a - b).natAbs < 2 ^ 53) : minus a b = ((a - b : Int) : Rat) := by
  have exact_ := round_small _ small
  unfold minus
  exact_mod_cast exact_

theorem times_int {a b : Int} (small : (a * b).natAbs < 2 ^ 53) : times a b = ((a * b : Int) : Rat) := by
  have exact_ := round_small _ small
  unfold times
  exact_mod_cast exact_

theorem getD_current {base : List Int} {targets : List Nat} {step : Int} {cursor target : Nat} (within_ : target < base.length)
    (unseen : target ∉ targets.take cursor) :
    ((handed base targets step cursor).map Int.cast).getD target (0 : Rat) = (base[target] : Int) := by
  have place : target < ((handed base targets step cursor).map (Int.cast : Int → Rat)).length := by simpa [handed] using within_
  rw [List.getD_eq_getElem _ _ place]
  simp [handed,unseen]

-- By induction on the units that are left; the cursor does not come around.
theorem spread_runs {base : List Int} {targets : List Nat} {step : Int} (distinct : targets.Nodup)
    (within_ : ∀ target ∈ targets, target < base.length) (unit : step.natAbs = 1) (left : Nat) :
    ∀ cursor rounds, left ≤ rounds → cursor + left ≤ targets.length → left < 2 ^ 53 →
      (0 < left → ∀ share ∈ base, (share + step).natAbs < 2 ^ 53) →
      spread targets step rounds cursor ((step * left : Int) : Rat) ((handed base targets step cursor).map Int.cast) =
        some ((handed base targets step (cursor + left)).map Int.cast) := by
  have nonzero : step ≠ 0 := by omega
  induction left with
  | zero =>
      intro cursor rounds _ _ _ _
      unfold spread
      rw [if_pos (by simp)]
      rfl
  | succ left ih =>
      intro cursor rounds enough fit small exact_
      obtain ⟨rounds,rfl⟩ : ∃ fewer, rounds = fewer + 1 := ⟨rounds - 1,by omega⟩
      have more : cursor < targets.length := by omega
      have place := within_ _ (List.getElem_mem more)
      have target : targets.getD (cursor % targets.length) 0 = targets[cursor] := by
        rw [Nat.mod_eq_of_lt more,List.getD_eq_getElem _ _ more]
      have some_ : ((step * (left + 1 : Nat) : Int) : Rat) ≠ 0 := by
        have factor : (step * (left + 1 : Nat) : Int) ≠ 0 := mul_ne_zero nonzero (by omega)
        exact_mod_cast factor
      have fewer : minus ((step * (left + 1 : Nat) : Int) : Rat) step = ((step * left : Int) : Rat) := by
        have rest : step * (left + 1 : Nat) - step = step * left := by push_cast; ring
        rw [minus_int (by rw [rest,Int.natAbs_mul,unit]; simpa using by omega),rest]
      have given : plus (((handed base targets step cursor).map Int.cast).getD targets[cursor] 0) step =
          ((base[targets[cursor]] + step : Int) : Rat) := by
        rw [getD_current place (unhanded distinct more)]
        exact plus_int (exact_ (by omega) _ (List.getElem_mem place))
      unfold spread
      rw [if_neg some_]
      dsimp only
      rw [target,fewer,given,← List.map_set,← handed_next more place,ih (cursor + 1) rounds (by omega) (by omega) (by omega)
        fun _ => exact_ (by omega)]
      rw [show cursor + 1 + left = cursor + (left + 1) by omega]

-- Numbers of one sign are added without rounding when their sum is.
theorem foldl_plus {sign : Int} (unit : sign.natAbs = 1) (numbers : List Int) :
    ∀ start : Int, 0 ≤ sign * start → (∀ number ∈ numbers, 0 ≤ sign * number) → sign * (start + numbers.sum) < 2 ^ 53 →
      (numbers.map (Int.cast : Int → Rat)).foldl plus start = ((start + numbers.sum : Int) : Rat) := by
  induction numbers with
  | nil =>
      intro start _ _ _
      simp
  | cons number rest ih =>
      intro start from_ signs small
      have first := signs number List.mem_cons_self
      have others : 0 ≤ sign * rest.sum := by
        have whole : (rest.map fun its => sign * its).sum = sign * rest.sum := by rw [List.sum_map_mul_left,List.map_id']
        rw [← whole]
        exact List.sum_nonneg fun value listed => by
          obtain ⟨its,member,rfl⟩ := List.mem_map.mp listed
          exact signs its (List.mem_cons_of_mem _ member)
      rw [List.sum_cons] at small
      have next : 0 ≤ sign * (start + number) := by rw [mul_add]; omega
      have added : plus (start : Rat) (number : Rat) = ((start + number : Int) : Rat) := by
        refine plus_int ?_
        have size : (start + number).natAbs = (sign * (start + number)).natAbs := by rw [Int.natAbs_mul,unit,one_mul]
        rw [size]
        have whole : sign * (start + (number + rest.sum)) = sign * (start + number) + sign * rest.sum := by ring
        omega
      rw [List.map_cons,List.foldl_cons,added,ih (start + number) next (fun its member => signs its (List.mem_cons_of_mem _ member))
        (by rw [add_assoc]; exact small),List.sum_cons,add_assoc]

-- What the whole parts leave of the amount is less than one unit for each positive ratio.
theorem parts_bounded (amount : Int) {total : Int} (positive : 0 < total) (ratios : List Int) (ratios_nonneg : ∀ ratio ∈ ratios, 0 ≤ ratio) :
    total * (ratios.map fun ratio => amount * ratio / total).sum ≤ amount * ratios.sum ∧
    amount * ratios.sum ≤ total * (ratios.map fun ratio => amount * ratio / total).sum +
      (total - 1) * ratios.countP fun ratio => decide (0 < ratio) := by
  induction ratios with
  | nil => simp
  | cons ratio rest ih =>
      obtain ⟨low,high⟩ := ih fun its member => ratios_nonneg its (List.mem_cons_of_mem _ member)
      have its := ratios_nonneg ratio List.mem_cons_self
      have whole := Int.mul_ediv_add_emod (amount * ratio) total
      have rest_ := Int.emod_nonneg (amount * ratio) positive.ne'
      have part := Int.emod_lt_of_pos (amount * ratio) positive
      rw [List.map_cons,List.sum_cons,List.sum_cons,mul_add,mul_add]
      refine ⟨by omega,?_⟩
      rcases its.eq_or_lt with rfl | some_
      · rw [List.countP_cons_of_neg (by simp)]
        simp only [mul_zero,Int.zero_ediv,zero_add]
        exact high
      · rw [List.countP_cons_of_pos (by simpa using some_)]
        push_cast
        rw [mul_add]
        omega

theorem parts_left (amount : Int) {total : Int} (positive : 0 < total) {ratios : List Int}
    (ratios_nonneg : ∀ ratio ∈ ratios, 0 ≤ ratio) (its : ratios.sum = total) :
    ∃ left : Nat, amount = (ratios.map fun ratio => amount * ratio / total).sum + left ∧
      left < ratios.countP fun ratio => decide (0 < ratio) := by
  obtain ⟨low,high⟩ := parts_bounded amount positive ratios ratios_nonneg
  rw [its,mul_comm amount] at low high
  have below := le_of_mul_le_mul_left low positive
  obtain ⟨left,same⟩ := Int.eq_ofNat_of_zero_le (sub_nonneg.mpr below)
  refine ⟨left,by omega,?_⟩
  have some_ : 0 < ratios.countP fun ratio => decide (0 < ratio) := by
    rw [List.countP_pos_iff]
    by_contra nobody
    push Not at nobody
    have zero : ratios.sum = 0 := List.sum_eq_zero fun ratio member => by
      have none_ : ratio ≤ 0 := by simpa using nobody ratio member
      exact le_antisymm none_ (ratios_nonneg ratio member)
    omega
  have strict : total * (left : Int) < total * (ratios.countP fun ratio => decide (0 < ratio) : Nat) := by
    have gap : total * (left : Int) ≤ (total - 1) * (ratios.countP fun ratio => decide (0 < ratio) : Nat) := by
      rw [← same,mul_sub]
      omega
    have more : (total - 1) * (ratios.countP fun ratio => decide (0 < ratio) : Nat) <
        total * (ratios.countP fun ratio => decide (0 < ratio) : Nat) := mul_lt_mul_of_pos_right (by omega) (by exact_mod_cast some_)
    omega
  exact_mod_cast lt_of_mul_lt_mul_left strict positive.le

theorem portion_int {amount total ratio : Int} (safe : (amount * ratio).natAbs ≤ maxSafeInteger) (positive : 0 < total) :
    portion amount total ratio = .ok (((amount * ratio).tdiv total : Int) : Rat) := by
  have small : (amount * ratio).natAbs < 2 ^ 53 := by
    unfold maxSafeInteger at safe
    omega
  have checked : isSafeInteger ((amount * ratio : Int) : Rat) = true := by
    unfold isSafeInteger
    rw [isInteger_int,Rat.num_intCast]
    simpa using safe
  unfold portion assertSafeMinor
  rw [times_int small,if_pos checked,trunc_divided small positive]
  rfl

theorem tdiv_signed {sign size ratio total : Int} (unit : sign.natAbs = 1) (nonneg : 0 ≤ size) (ratio_nonneg : 0 ≤ ratio) :
    (sign * size * ratio).tdiv total = sign * (size * ratio / total) := by
  have from_ := mul_nonneg nonneg ratio_nonneg
  rcases Int.natAbs_eq_iff.mp unit with rfl | rfl
  · rw [Nat.cast_one,one_mul,one_mul,Int.tdiv_eq_ediv_of_nonneg from_]
  · rw [Nat.cast_one,neg_one_mul,neg_mul,Int.neg_tdiv,Int.tdiv_eq_ediv_of_nonneg from_,neg_one_mul]

theorem Money.of_all (money : Money registry) (numbers : List Int) (safe : ∀ number ∈ numbers, number.natAbs ≤ maxSafeInteger) :
    ∃ shares : List (Money registry), ((numbers.map (Int.cast : Int → Rat)).mapM fun share => Money.of registry share money.code) = .ok shares ∧
      shares.map Money.amount = numbers ∧ ∀ share ∈ shares, share.code = money.code := by
  induction numbers with
  | nil => exact ⟨[],rfl,rfl,fun _ member => absurd member List.not_mem_nil⟩
  | cons number rest ih =>
      obtain ⟨shares,made,amounts,codes⟩ := ih fun its member => safe its (List.mem_cons_of_mem _ member)
      obtain ⟨share,made',amount,code⟩ := Money.of_int (safe number List.mem_cons_self) money
      refine ⟨share :: shares,?_,?_,?_⟩
      · rw [List.map_cons,List.mapM_cons,made',made]
        rfl
      · rw [List.map_cons,amount,amounts]
      · intro its member
        rcases List.mem_cons.mp member with rfl | later
        · exact code
        · exact codes its later

theorem portions {amount total : Int} (positive : 0 < total) (ratios : List Int)
    (products : ∀ ratio ∈ ratios, (amount * ratio).natAbs ≤ maxSafeInteger) :
    (ratios.map (Int.cast : Int → Rat)).mapM (portion amount total) =
      .ok ((ratios.map fun ratio => (amount * ratio).tdiv total).map Int.cast) := by
  induction ratios with
  | nil => rfl
  | cons ratio rest ih =>
      rw [List.map_cons,List.mapM_cons,portion_int (products ratio List.mem_cons_self) positive,
        ih fun its member => products its (List.mem_cons_of_mem _ member)]
      rfl

theorem natAbs_signed {sign n : Int} (unit : sign.natAbs = 1) (nonneg : 0 ≤ sign * n) : (n.natAbs : Int) = sign * n := by
  have size : n.natAbs = (sign * n).natAbs := by rw [Int.natAbs_mul,unit,one_mul]
  rw [size,Int.natAbs_of_nonneg nonneg]

theorem square_signed {sign : Int} (unit : sign.natAbs = 1) : sign * sign = 1 := by
  rcases Int.natAbs_eq_iff.mp unit with rfl | rfl <;> rfl

-- The sign of what is left is the step, unless nothing is left.
theorem spread_left {base : List Int} {targets : List Nat} {sign : Int} {left : Nat} (distinct : targets.Nodup)
    (within_ : ∀ target ∈ targets, target < base.length) (unit : sign.natAbs = 1) (fit : left ≤ targets.length) (small : left < 2 ^ 53)
    (exact_ : 0 < left → ∀ share ∈ base, (share + sign).natAbs < 2 ^ 53) (rounds : Nat) (enough : left ≤ rounds) :
    spread targets (if 0 ≤ ((sign * left : Int) : Rat) then 1 else -1) rounds 0 ((sign * left : Int) : Rat) (base.map Int.cast) =
      some ((handed base targets sign left).map Int.cast) := by
  rcases Nat.eq_zero_or_pos left with rfl | some_
  · unfold spread
    rw [if_pos (by simp),handed_none]
  · have step : (if 0 ≤ ((sign * left : Int) : Rat) then 1 else -1 : Rat) = ((sign : Int) : Rat) := by
      rcases Int.natAbs_eq_iff.mp unit with rfl | rfl
      · rw [if_pos (by push_cast; positivity)]
        rfl
      · have negative : ¬ 0 ≤ ((-((1 : Nat) : Int) * left : Int) : Rat) := by
          push_cast
          rw [not_le,neg_one_mul,neg_lt_zero]
          exact_mod_cast some_
        rw [if_neg negative]
        rfl
    have ran := spread_runs distinct within_ unit left 0 rounds enough (by omega) small exact_
    rw [handed_none,Nat.zero_add] at ran
    rw [step]
    exact ran

-- The whole run: what is left over, and that it goes to the first of the positive ratios.
theorem eligible_count (ratios : List Int) : (eligible (ratios.map Int.cast)).length = ratios.countP fun ratio => decide (0 < ratio) := by
  rw [eligible_length,List.countP_map]
  refine List.countP_congr fun ratio _ => ?_
  simp

theorem eligible_nodup (ratios : List Rat) : (eligible ratios).Nodup := List.Nodup.sublist (eligible_sublist _) List.nodup_range

theorem eligible_within {ratios : List Int} (f : Int → Int) : ∀ target ∈ eligible (ratios.map Int.cast), target < (ratios.map f).length := by
  intro target member
  have inside := List.mem_range.mp ((eligible_sublist _).subset member)
  simpa using inside

theorem signed_size (amount : Int) : ∃ sign size : Int, sign.natAbs = 1 ∧ 0 ≤ size ∧ amount = sign * size := by
  rcases le_or_gt 0 amount with from_ | below
  · exact ⟨1,amount,rfl,from_,(one_mul _).symm⟩
  · exact ⟨-1,-amount,rfl,by omega,by ring⟩

theorem parts_nonneg {size : Int} {ratios : List Int} (size_nonneg : 0 ≤ size) (nonneg : ∀ ratio ∈ ratios, 0 ≤ ratio) (positive : 0 < ratios.sum) :
    ∀ part ∈ ratios.map fun ratio => size * ratio / ratios.sum, 0 ≤ part := by
  intro part member
  obtain ⟨ratio,its,rfl⟩ := List.mem_map.mp member
  exact Int.ediv_nonneg (mul_nonneg size_nonneg (nonneg ratio its)) positive.le

-- Each part has the sign of the amount, and is no more than all of them.
theorem parts_signed {sign size : Int} {ratios : List Int} (unit : sign.natAbs = 1) (size_nonneg : 0 ≤ size)
    (nonneg : ∀ ratio ∈ ratios, 0 ≤ ratio) (positive : 0 < ratios.sum) :
    ∀ share ∈ ratios.map fun ratio => sign * (size * ratio / ratios.sum), 0 ≤ sign * share ∧
      sign * share ≤ (ratios.map fun ratio => size * ratio / ratios.sum).sum := by
  intro share member
  obtain ⟨ratio,its,rfl⟩ := List.mem_map.mp member
  have listed : size * ratio / ratios.sum ∈ ratios.map fun ratio => size * ratio / ratios.sum := List.mem_map_of_mem its
  have all := parts_nonneg size_nonneg nonneg positive
  rw [← mul_assoc,square_signed unit,one_mul]
  exact ⟨all _ listed,List.single_le_sum all _ listed⟩

-- With what is left handed out one unit each, no share is larger than the amount.
theorem handed_fits {sign size : Int} {left : Nat} {parts : List Int} {targets : List Nat} (unit : sign.natAbs = 1)
    (signs : ∀ share ∈ parts, 0 ≤ sign * share ∧ sign * share ≤ size - left) (safe : size.natAbs ≤ maxSafeInteger) :
    ∀ share ∈ handed parts targets sign left, share.natAbs ≤ maxSafeInteger := by
  intro share member
  obtain ⟨index,short,rfl⟩ := List.mem_iff_getElem.mp member
  have short' : index < parts.length := by simpa [handed] using short
  obtain ⟨low,high⟩ := signs _ (List.getElem_mem short')
  have sized := natAbs_signed unit low
  simp only [handed,List.getElem_mapIdx]
  split
  · rename_i taken
    have some_ : 0 < left := by
      have nonempty := List.length_pos_of_mem taken
      rw [List.length_take] at nonempty
      omega
    omega
  · omega

theorem allocate_handed (money : Money registry) {ratios : List Int} (nonneg : ∀ ratio ∈ ratios, 0 ≤ ratio) (positive : 0 < ratios.sum)
    (total : ratios.sum ≤ maxSafeInteger) (products : ∀ ratio ∈ ratios, (money.amount * ratio).natAbs ≤ maxSafeInteger) :
    ∃ (sign size : Int) (left : Nat) (shares : List (Money registry)),
      sign.natAbs = 1 ∧ 0 ≤ size ∧ money.amount = sign * size ∧
      (left : Int) = size - (ratios.map fun ratio => size * ratio / ratios.sum).sum ∧
      left < (eligible (ratios.map Int.cast)).length ∧
      (∀ rounds, left ≤ rounds → money.allocate rounds (ratios.map Int.cast) = some (.ok shares)) ∧
      shares.map Money.amount =
        handed (ratios.map fun ratio => sign * (size * ratio / ratios.sum)) (eligible (ratios.map Int.cast)) sign left ∧
      ∀ share ∈ shares, share.code = money.code := by
  obtain ⟨sign,size,unit,size_nonneg,amount⟩ := signed_size money.amount
  have safe := money.safe
  rw [amount,Int.natAbs_mul,unit,one_mul] at safe
  obtain ⟨left,whole,few⟩ := parts_left size positive nonneg rfl
  have count := eligible_count ratios
  have parts_sum := List.sum_nonneg (parts_nonneg size_nonneg nonneg positive)
  have base_sum : (ratios.map fun ratio => sign * (size * ratio / ratios.sum)).sum =
      sign * (ratios.map fun ratio => size * ratio / ratios.sum).sum := List.sum_map_mul_left ..
  have base_signs : ∀ share ∈ ratios.map fun ratio => sign * (size * ratio / ratios.sum), 0 ≤ sign * share ∧ sign * share ≤ size - left := by
    intro share member
    obtain ⟨low,high⟩ := parts_signed unit size_nonneg nonneg positive share member
    exact ⟨low,by omega⟩
  obtain ⟨shares,made,amounts,codes⟩ := Money.of_all money _ (handed_fits unit base_signs safe)
  unfold maxSafeInteger at safe total
  have added : (ratios.map (Int.cast : Int → Rat)).foldl plus 0 = (ratios.sum : Int) := by
    have sums := @foldl_plus 1 rfl ratios 0 (by omega) (by simpa using nonneg) (by omega)
    simpa using sums
  have shares_added : ((ratios.map fun ratio => sign * (size * ratio / ratios.sum)).map (Int.cast : Int → Rat)).foldl plus 0 =
      ((sign * (ratios.map fun ratio => size * ratio / ratios.sum).sum : Int) : Rat) := by
    have sums := foldl_plus unit (ratios.map fun ratio => sign * (size * ratio / ratios.sum)) 0 (by omega)
      (fun share member => (base_signs share member).1) (by
        rw [zero_add,base_sum,← mul_assoc,square_signed unit,one_mul]
        omega)
    rw [zero_add,base_sum] at sums
    exact_mod_cast sums
  have rest : minus money.amount ((sign * (ratios.map fun ratio => size * ratio / ratios.sum).sum : Int) : Rat) =
      ((sign * left : Int) : Rat) := by
    have difference : money.amount - sign * (ratios.map fun ratio => size * ratio / ratios.sum).sum = sign * left := by
      rw [amount,← mul_sub]
      congr 1
      omega
    rw [minus_int (by rw [difference,Int.natAbs_mul,unit]; omega),difference]
  have quotients : (ratios.map fun ratio => (money.amount * ratio).tdiv ratios.sum) =
      ratios.map fun ratio => sign * (size * ratio / ratios.sum) := by
    refine List.map_congr_left fun ratio member => ?_
    rw [amount]
    exact tdiv_signed unit size_nonneg (nonneg ratio member)
  have room : 0 < left → ∀ share ∈ ratios.map fun ratio => sign * (size * ratio / ratios.sum), (share + sign).natAbs < 2 ^ 53 := by
    intro some_ share member
    obtain ⟨low,high⟩ := base_signs share member
    have sized := natAbs_signed unit low
    omega
  refine ⟨sign,size,left,shares,unit,size_nonneg,amount,by omega,by rw [count]; exact few,?_,amounts,codes⟩
  intro rounds enough
  have someone : ratios.map (Int.cast : Int → Rat) ≠ [] := by
    intro nobody
    rw [List.map_eq_nil_iff.mp nobody] at positive
    exact absurd positive (lt_irrefl 0)
  have unsigned : ¬ (ratios.map (Int.cast : Int → Rat)).any (fun ratio => decide (ratio < 0)) = true := by
    simpa using nonneg
  have counted : ¬ ((ratios.sum : Int) : Rat) ≤ 0 := by exact_mod_cast not_le.mpr positive
  unfold Money.allocate
  rw [if_neg someone,if_neg unsigned,added]
  dsimp only
  rw [if_neg counted,portions positive ratios products,quotients]
  dsimp only
  rw [shares_added,rest,spread_left (eligible_nodup _) (eligible_within _) unit (by rw [count]; omega) (by omega) room rounds enough,Option.map_some,made]

theorem part_within {size ratio total : Int} (positive : 0 < total) (given : Int) (unit : given = 0 ∨ given = 1) :
    |((size * ratio / total + given : Int) : Rat) - size * ratio / total| ≤ 1 ∧
    (|((size * ratio / total + given : Int) : Rat) - size * ratio / total| = 1 → total ∣ size * ratio) := by
  have divisor : (0 : Rat) < total := by exact_mod_cast positive
  have left := Int.ediv_mul_le (size * ratio) positive.ne'
  have right := Int.lt_ediv_add_one_mul_self (size * ratio) positive
  have low : ((size * ratio / total : Int) : Rat) ≤ size * ratio / total := by
    rw [le_div_iff₀ divisor]
    exact_mod_cast left
  have high : (size * ratio / total : Rat) < ((size * ratio / total : Int) : Rat) + 1 := by
    rw [div_lt_iff₀ divisor]
    exact_mod_cast right
  push_cast
  rcases unit with rfl | rfl
  · rw [Int.cast_zero,add_zero]
    refine ⟨abs_le.mpr ⟨by linarith,by linarith⟩,?_⟩
    intro whole
    rw [abs_of_nonpos (by linarith)] at whole
    linarith
  · rw [Int.cast_one,abs_of_nonneg (by linarith)]
    refine ⟨by linarith,?_⟩
    intro whole
    have exact_ : ((size * ratio / total : Int) : Rat) = size * ratio / total := by linarith
    rw [eq_div_iff divisor.ne'] at exact_
    have product : size * ratio = size * ratio / total * total := by exact_mod_cast exact_.symm
    exact ⟨size * ratio / total,product.trans (mul_comm _ _)⟩

-- The shares come to the amount; each is within one unit of its quotient, at most where that is whole.
theorem allocate_conserves (money : Money registry) {ratios : List Int} (nonneg : ∀ ratio ∈ ratios, 0 ≤ ratio) (positive : 0 < ratios.sum)
    (total : ratios.sum ≤ maxSafeInteger) (products : ∀ ratio ∈ ratios, (money.amount * ratio).natAbs ≤ maxSafeInteger) :
    ∃ shares : List (Money registry),
      (∀ rounds, (ratios.countP fun ratio => decide (0 < ratio)) ≤ rounds + 1 →
        money.allocate rounds (ratios.map Int.cast) = some (.ok shares)) ∧
      shares.length = ratios.length ∧
      (shares.map Money.amount).sum = money.amount ∧
      ∀ (index : Nat) (ratio : Int) (share : Money registry), ratios[index]? = some ratio → shares[index]? = some share →
        share.code = money.code ∧
        (ratio = 0 → share.amount = 0) ∧ 0 ≤ money.amount * share.amount ∧
        |(share.amount : Rat) - money.amount * ratio / ratios.sum| ≤ 1 ∧
        (|(share.amount : Rat) - money.amount * ratio / ratios.sum| = 1 → ratios.sum ∣ money.amount * ratio) := by
  obtain ⟨sign,size,left,shares,unit,size_nonneg,amount,rest,few,ran,amounts,codes⟩ := allocate_handed money nonneg positive total products
  have count := eligible_count ratios
  refine ⟨shares,fun rounds enough => ran rounds (by omega),?_,?_,?_⟩
  · have lengths := congrArg List.length amounts
    simpa [handed] using lengths
  · rw [amounts,handed_sum (eligible_nodup _) (eligible_within _) left few.le,List.sum_map_mul_left,amount,rest]
    ring
  · intro index ratio share its its'
    have member := List.mem_of_getElem? its
    have part_nonneg := Int.ediv_nonneg (mul_nonneg size_nonneg (nonneg ratio member)) positive.le
    -- Only positive ratios take what is left.
    obtain ⟨given,unit',shared,positive_⟩ : ∃ given : Int, (given = 0 ∨ given = 1) ∧
        share.amount = sign * (size * ratio / ratios.sum + given) ∧ (given = 1 → 0 < ratio) := by
      have same := congrArg (fun numbers => numbers[index]?) amounts
      simp only [handed,List.getElem?_map,its',Option.map_some,List.getElem?_mapIdx,its] at same
      by_cases taken : index ∈ (eligible (ratios.map Int.cast)).take left
      · rw [if_pos taken] at same
        obtain ⟨value,listed,more⟩ := mem_eligible.mp (List.mem_of_mem_take taken)
        rw [List.getElem?_map,its,Option.map_some] at listed
        refine ⟨1,.inr rfl,?_,fun _ => ?_⟩
        · rw [Option.some.inj same]
          ring
        · rw [← Option.some.inj listed] at more
          exact_mod_cast more
      · rw [if_neg taken] at same
        refine ⟨0,.inl rfl,?_,nofun⟩
        rw [Option.some.inj same,add_zero]
    have square := square_signed unit
    have mirrored : |(share.amount : Rat) - money.amount * ratio / ratios.sum| =
        |((size * ratio / ratios.sum + given : Int) : Rat) - size * ratio / ratios.sum| := by
      have one : |(sign : Rat)| = 1 := by
        rw [← Int.cast_abs,Int.abs_eq_natAbs,unit]
        rfl
      have factored : (share.amount : Rat) - money.amount * ratio / ratios.sum =
          sign * (((size * ratio / ratios.sum + given : Int) : Rat) - size * ratio / ratios.sum) := by
        rw [shared,amount]
        push_cast
        ring
      rw [factored,abs_mul,one,one_mul]
    obtain ⟨near,whole⟩ := part_within positive given unit'
    refine ⟨codes share (List.mem_of_getElem? its'),?_,?_,mirrored ▸ near,?_⟩
    · rintro rfl
      rcases unit' with rfl | rfl
      · simp [shared]
      · exact absurd (positive_ rfl) (lt_irrefl 0)
    · have signs : money.amount * share.amount = sign * sign * (size * (size * ratio / ratios.sum + given)) := by
        rw [amount,shared]
        ring
      rw [signs,square,one_mul]
      exact mul_nonneg size_nonneg (by omega)
    · intro apart
      rw [mirrored] at apart
      rw [amount,mul_assoc]
      exact Dvd.dvd.mul_left (whole apart) sign

def twoCents : Money exampleCurrencies := ⟨2,"EUR",by decide,exampleCurrencies_euro⟩

theorem allocate_conserves_three : ∃ shares, twoCents.allocate 2 (([3,1,2] : List Int).map Int.cast) = some (.ok shares) ∧
    (shares.map Money.amount).sum = 2 := by
  obtain ⟨shares,ran,_,sum,_⟩ := @allocate_conserves _ twoCents [3,1,2] (by decide) (by decide) (by decide) (by decide)
  exact ⟨shares,ran 2 (by decide),sum⟩

-- The unit that is left over goes to a share whose quotient was whole.
theorem allocate_unit : (twoCents.allocate 2 [3,1,2]).map (fun ran => ran.map (List.map Money.amount)) = some (.ok [2,0,0]) ∧
    ¬ |((2 : Int) : Rat) - twoCents.amount * 3 / (3 + 1 + 2)| < 1 := by
  refine ⟨by decide +kernel,?_⟩
  norm_num [twoCents]

end Payable.Amounts
