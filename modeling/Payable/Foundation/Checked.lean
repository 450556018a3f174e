namespace Payable.Checked

-- Code that throws: a computation in Except, read back from its success.
variable {Failure Value Result : Type}

def ensure (condition : Bool) (error : Failure) : Except Failure Unit := if condition then .ok () else .error error

def require (found : Option Value) (error : Failure) : Except Failure Value :=
  match found with
  | some value => .ok value
  | none => .error error

-- A value that a property holds of, kept with it.
def keep (property : Value → Prop) [DecidablePred property] (value : Value) (error : Failure) : Except Failure {value : Value // property value} :=
  if its : property value then .ok ⟨value,its⟩ else .error error

theorem bind_ok {first : Except Failure Value} {rest : Value → Except Failure Result} :
    first >>= rest = .ok result ↔ ∃ value, first = .ok value ∧ rest value = .ok result := by
  cases first <;> simp [bind,Except.bind]

theorem pure_ok {value : Value} : (pure value : Except Failure Value) = .ok result ↔ value = result := by
  simp [pure,Except.pure]

theorem ensure_ok {error : Failure} : ensure condition error = .ok done ↔ condition = true := by
  cases condition <;> simp [ensure]

theorem require_ok {error : Failure} {found : Option Value} : require found error = .ok value ↔ found = some value := by
  cases found <;> simp [require]

theorem keep_ok {property : Value → Prop} [DecidablePred property] {value : Value} {error : Failure} {kept : {value : Value // property value}} :
    keep property value error = .ok kept ↔ value = kept.1 := by
  unfold keep
  by_cases its : property value
  · rw [dif_pos its,Except.ok.injEq,Subtype.ext_iff]
  · rw [dif_neg its]
    refine iff_of_false nofun ?_
    rintro rfl
    exact its kept.2

theorem map_ok {ran : Except Failure Value} {wrap : Value → Result} :
    ran.map wrap = .ok result ↔ ∃ value, ran = .ok value ∧ wrap value = result := by
  cases ran <;> simp [Except.map]

theorem toOption_ok {ran : Except Failure Value} (succeeded : ran.toOption = some result) : ran = .ok result := by
  cases ran with
  | error => cases succeeded
  | ok => cases succeeded; rfl

-- A list of computations of which none throws.
theorem mapM_ok {values : List Value} {results : List (Except Failure Value)} : results.mapM id = .ok values ↔ results = values.map .ok := by
  induction results generalizing values with
  | nil => simp [pure,Except.pure,eq_comm]
  | cons result others ih =>
      simp only [List.mapM_cons,bind_ok,pure_ok,id,ih]
      constructor
      · rintro ⟨value,rfl,rest,rfl,rfl⟩
        rfl
      · intro same
        cases values with
        | nil => cases same
        | cons value rest => exact ⟨value,(List.cons.inj same).1,rest,(List.cons.inj same).2,rfl⟩

end Payable.Checked
