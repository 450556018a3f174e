import Mathlib.Algebra.Order.Ring.Rat
import Mathlib.Data.Rat.Floor
import Mathlib.Tactic.Linarith
import Mathlib.Tactic.Ring

namespace Payable.Doubles

-- What the rounding of an operation on doubles does to its exact result.
structure Rounding where
  round : Rat → Rat
  monotone : ∀ a b, a ≤ b → round a ≤ round b
  again : ∀ a, round (round a) = round a
  integers : ∀ n : Int, n.natAbs ≤ 2 ^ 53 → round n = n
  halves : ∀ a, round a = a → 1 / 2 ≤ a → round (a / 2) = a / 2

def Rounding.exact : Rounding :=
  ⟨fun a => a,fun _ _ less => less,fun _ => rfl,fun _ _ => rfl,fun _ _ _ => rfl⟩

-- A number of the language; what an operation makes of finite ones is finite here, however large.
inductive Number where
  | finite (value : Rat)
  | infinity
  | negInfinity
  | nan
  deriving DecidableEq

variable {r : Rounding}

-- A value that the language can hold.
def Number.Rounded (r : Rounding) : Number → Prop
  | .finite value => r.round value = value
  | _ => True

def Number.map (change : Rat → Rat) : Number → Number
  | .finite value => .finite (change value)
  | .infinity => .infinity
  | .negInfinity => .negInfinity
  | .nan => .nan

def Number.min : Number → Number → Number
  | .nan,_ | _,.nan => .nan
  | .negInfinity,_ | _,.negInfinity => .negInfinity
  | .infinity,other | other,.infinity => other
  | .finite left,.finite right => .finite (Min.min left right)

-- left <= right, for a finite right.
def Number.atMost (right : Rat) : Number → Bool
  | .finite value => value ≤ right
  | .negInfinity => true
  | .infinity | .nan => false

-- ToIntegerOrInfinity of a finite value.
def trunc (value : Rat) : Int := if 0 ≤ value then ⌊value⌋ else ⌈value⌉

theorem trunc_int (n : Int) : trunc n = n := by
  unfold trunc
  split
  · exact Int.floor_intCast n
  · exact Int.ceil_intCast n

theorem trunc_le {value : Rat} {n : Int} (below : value ≤ n) : trunc value ≤ n := by
  unfold trunc
  split
  · have less : (⌊value⌋ : Rat) ≤ n := (Int.floor_le value).trans below
    exact_mod_cast less
  · exact Int.ceil_le.mpr below

theorem round_le_int {a : Rat} {n : Int} (small : n.natAbs ≤ 2 ^ 53) (below : a ≤ n) : r.round a ≤ n := by
  rw [← r.integers n small]
  exact r.monotone a n below

theorem int_le_round {a : Rat} {n : Int} (small : n.natAbs ≤ 2 ^ 53) (above : (n : Rat) ≤ a) : (n : Rat) ≤ r.round a := by
  rw [← r.integers n small]
  exact r.monotone n a above

theorem round_le_rounded {a double : Rat} (rounded : r.round double = double) (below : a ≤ double) :
    r.round a ≤ double := by
  rw [← rounded]
  exact r.monotone a double below

theorem min_rounded (left : Number.Rounded r x) (right : Number.Rounded r y) : Number.Rounded r (x.min y) := by
  cases x with
  | finite a =>
      cases y with
      | finite b =>
          rcases le_total a b with less | less
          · show r.round (Min.min a b) = Min.min a b
            rw [min_eq_left less]
            exact left
          · show r.round (Min.min a b) = Min.min a b
            rw [min_eq_right less]
            exact right
      | infinity => exact left
      | negInfinity | nan => trivial
  | infinity =>
      cases y with
      | finite b => exact right
      | infinity | negInfinity | nan => trivial
  | negInfinity | nan => cases y <;> trivial

-- A minimum is finite from one of its sides, and is below each finite side.
theorem min_finite {value : Rat} (found : Number.min x y = .finite value) :
    (x = .finite value ∨ y = .finite value) ∧ (∀ other, y = .finite other → value ≤ other) ∧
      (∀ other, x = .finite other → value ≤ other) ∧ (y = .infinity ∨ ∃ other, y = .finite other) := by
  cases x <;> cases y <;> simp only [Number.min,Number.finite.injEq,reduceCtorEq] at found
  case finite.finite a b =>
    subst found
    refine ⟨?_,?_,?_,.inr ⟨b,rfl⟩⟩
    · rcases min_choice a b with same | same
      · exact .inl (by rw [same])
      · exact .inr (by rw [same])
    · rintro other ⟨⟩
      exact min_le_right a b
    · rintro other ⟨⟩
      exact min_le_left a b
  case finite.infinity =>
    subst found
    refine ⟨.inl rfl,?_,?_,.inl rfl⟩
    · rintro other ⟨⟩
    · rintro other ⟨⟩
      exact le_refl _
  case infinity.finite =>
    subst found
    refine ⟨.inr rfl,?_,?_,.inr ⟨_,rfl⟩⟩
    · rintro other ⟨⟩
      exact le_refl _
    · rintro other ⟨⟩

theorem round_quarter (r : Rounding) : r.round (1 / 2) = 1 / 2 ∧ r.round (1 / 4) = 1 / 4 := by
  have one : r.round 1 = 1 := by
    have whole := r.integers 1 (by decide)
    simpa using whole
  have half : r.round (1 / 2) = 1 / 2 := r.halves 1 one (by norm_num)
  have quarter := r.halves (1 / 2) half (by norm_num)
  norm_num at quarter
  exact ⟨half,quarter⟩

-- Half of a cap and a part of its other half, each operation rounded.
def jittered (r : Rounding) (cap random : Rat) : Rat := r.round (r.round (cap / 2) + r.round (random * r.round (cap / 2)))

theorem jittered_le {cap random : Rat} (rounded : r.round cap = cap) (drawn : 0 ≤ random ∧ random < 1)
    (whole : 1 ≤ jittered r cap random) : jittered r cap random ≤ cap := by
  have share : ∀ half, r.round half = half → 0 ≤ half → r.round (random * half) ≤ half := by
    intro half its nonneg
    refine round_le_rounded its ?_
    calc random * half ≤ 1 * half := mul_le_mul_of_nonneg_right (le_of_lt drawn.2) nonneg
      _ = half := one_mul half
  rcases le_or_gt (1 / 2) cap with normal | small
  · have half := r.halves cap rounded normal
    unfold jittered
    rw [half]
    refine round_le_rounded rounded ?_
    have part := share (cap / 2) half (by linarith)
    linarith
  · -- A smaller cap leaves no whole millisecond.
    have half : r.round (cap / 2) ≤ 1 / 4 := by
      rw [← (round_quarter r).2]
      exact r.monotone _ _ (by linarith)
    have less : jittered r cap random ≤ 1 / 2 := by
      have halfway : r.round (1 / 2) = 1 / 2 := (round_quarter r).1
      unfold jittered
      rw [← halfway]
      refine r.monotone _ _ ?_
      rcases le_or_gt 0 (r.round (cap / 2)) with nonneg | negative
      · have part : r.round (random * r.round (cap / 2)) ≤ r.round (cap / 2) :=
          share _ (r.again _) nonneg
        linarith
      · have part : r.round (random * r.round (cap / 2)) ≤ (0 : Int) := by
          refine round_le_int (n := 0) (by decide) ?_
          have product : random * r.round (cap / 2) ≤ 0 :=
            mul_nonpos_of_nonneg_of_nonpos drawn.1 (le_of_lt negative)
          simpa using product
        have part' : r.round (random * r.round (cap / 2)) ≤ 0 := by simpa using part
        linarith
    linarith

end Payable.Doubles
