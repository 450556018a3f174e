namespace Payable.Locks

variable {Holder Resource : Type}

-- A lock that is taken before a resource is held and given back after: whoever holds is
-- covered by it, and nobody else holds beside him.
structure Exclusive (locked : Resource → Prop) (holds : Holder → Resource → Prop) : Prop where
  covered : ∀ holder resource, holds holder resource → locked resource
  alone : ∀ one other resource, holds one resource → holds other resource → one = other

theorem exclusive_free {locked : Resource → Prop} {holds : Holder → Resource → Prop}
    (nobody : ∀ holder resource, ¬ holds holder resource) : Exclusive locked holds :=
  ⟨fun holder resource held => (nobody holder resource held).elim,
    fun one _ resource held _ => (nobody one resource held).elim⟩

-- Nobody begins to hold, and no lock of what is held is given back.
theorem Exclusive.kept {locked locked' : Resource → Prop} {holds holds' : Holder → Resource → Prop}
    (exclusive : Exclusive locked holds) (old : ∀ holder resource, holds' holder resource → holds holder resource)
    (stays : ∀ holder resource, holds' holder resource → locked resource → locked' resource) :
    Exclusive locked' holds' := by
  refine ⟨?_,?_⟩
  · intro holder resource held
    exact stays holder resource held (exclusive.covered holder resource (old holder resource held))
  · intro one other resource held held'
    exact exclusive.alone one other resource (old one resource held) (old other resource held')

-- One begins to hold what was not locked.
theorem Exclusive.taken {locked locked' : Resource → Prop} {holds holds' : Holder → Resource → Prop}
    (exclusive : Exclusive locked holds) (free : ¬ locked resource)
    (gained : ∀ other its, holds' other its → holds other its ∨ other = holder ∧ its = resource)
    (stays : ∀ its, locked its → locked' its) (taken : locked' resource) : Exclusive locked' holds' := by
  have elsewhere : ∀ other, ¬ holds other resource := fun other held => free (exclusive.covered other resource held)
  refine ⟨?_,?_⟩
  · intro other its held
    rcases gained other its held with old | ⟨_,rfl⟩
    · exact stays its (exclusive.covered other its old)
    · exact taken
  · intro one other its held held'
    rcases gained one its held with old | ⟨rfl,rfl⟩
    · rcases gained other its held' with old' | ⟨rfl,rfl⟩
      · exact exclusive.alone one other its old old'
      · exact (elsewhere one old).elim
    · rcases gained other its held' with old' | ⟨rfl,_⟩
      · exact (elsewhere other old').elim
      · rfl

-- The holder gives back; the locks of other resources stay.
theorem Exclusive.released {locked locked' : Resource → Prop} {holds holds' : Holder → Resource → Prop}
    (exclusive : Exclusive locked holds) (held : holds holder resource)
    (others : ∀ other its, holds' other its → holds other its ∧ other ≠ holder)
    (stays : ∀ its, its ≠ resource → locked its → locked' its) : Exclusive locked' holds' := by
  refine exclusive.kept (fun other its held' => (others other its held').1) ?_
  intro other its held'
  obtain ⟨old,apart⟩ := others other its held'
  refine stays its ?_
  intro same
  subst same
  exact apart (exclusive.alone other holder its old held)

end Payable.Locks
