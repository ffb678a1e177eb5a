import VariantPlan.Json.Parser
import VariantPlan.Proofs.Json.Nesting

/-!
# Values of documents

What a document can hold: its integers fit a word, and its containers are nested no deeper than
`maxDepth`. Each level of containers costs the reader a unit of fuel, so the fuel bounds the depth
before the limit is applied.

Main result: `within_of_parse?`.
-/

namespace VariantPlan.Json

theorem fitsWord_of_integer? {x : Numeral} {n : Int} (h : x.integer? = some n) :
    fitsWord n = true := by
  simp only [Numeral.integer?, Option.ite_none_right_eq_some, Bool.and_eq_true] at h
  obtain ⟨⟨⟨-, hfits⟩, -⟩, h⟩ := h
  obtain rfl := Option.some.inj h
  exact hfits

theorem within_value (x : Numeral) (depth : Nat) : Within Kept depth x.value := by
  unfold Numeral.value
  cases hn : x.integer? with
  | some n => exact .scalar rfl (fitsWord_of_integer? hn)
  | none =>
    cases x.magnitude? with
    | some units => exact .scalar rfl trivial
    | none => exact .scalar rfl trivial

theorem within_of_readUnsigned? {negative : Bool} {cs rest : List Char} {j : Json}
    (h : readUnsigned? negative cs = some (j, rest)) (depth : Nat) : Within Kept depth j := by
  unfold readUnsigned? at h
  obtain ⟨⟨whole, r₁⟩, -, h⟩ := Option.bind_eq_some_iff.1 h
  dsimp only at h
  split at h
  · cases h
  · obtain ⟨⟨fraction, r₂⟩, -, h⟩ := Option.bind_eq_some_iff.1 h
    obtain ⟨⟨exponent, r₃⟩, -, h⟩ := Option.bind_eq_some_iff.1 h
    obtain ⟨rfl, rfl⟩ := Prod.mk.inj (Option.some.inj h)
    exact within_value _ depth

theorem within_of_readNumber? {cs rest : List Char} {j : Json}
    (h : readNumber? cs = some (j, rest)) (depth : Nat) : Within Kept depth j := by
  unfold readNumber? at h
  split at h <;> exact within_of_readUnsigned? h depth

/-! ## Containers -/

/-- Values read with this fuel are nested no deeper than it. -/
def ValuesWithin (fuel : Nat) : Prop :=
  ∀ cs j rest, readValue? fuel cs = some (j, rest) → Within Kept fuel j

/-- So are list items. -/
def ItemsWithin (fuel : Nat) : Prop :=
  ∀ cs items rest, readItems? fuel cs = some (items, rest) → ∀ j ∈ items, Within Kept fuel j

/-- So are object members. -/
def MembersWithin (fuel : Nat) : Prop :=
  ∀ cs members rest, readMembers? fuel cs = some (some members, rest) →
    ∀ m ∈ members, Within Kept fuel m.2

theorem valuesWithin_succ {fuel : Nat} (hitems : ItemsWithin fuel)
    (hmembers : MembersWithin fuel) : ValuesWithin (fuel + 1) := by
  intro cs j rest h
  unfold readValue? at h
  split at h
  next =>
    obtain ⟨rfl, rfl⟩ := Prod.mk.inj (Option.some.inj h)
    exact .scalar rfl trivial
  next =>
    obtain ⟨rfl, rfl⟩ := Prod.mk.inj (Option.some.inj h)
    exact .scalar rfl trivial
  next =>
    obtain ⟨rfl, rfl⟩ := Prod.mk.inj (Option.some.inj h)
    exact .scalar rfl trivial
  next =>
    obtain ⟨⟨s, r⟩, -, h⟩ := Option.map_eq_some_iff.1 h
    obtain ⟨rfl, rfl⟩ := Prod.mk.inj h
    cases s with
    | none => exact .scalar rfl trivial
    | some s => exact .scalar rfl trivial
  next =>
    split at h
    next =>
      obtain ⟨rfl, rfl⟩ := Prod.mk.inj (Option.some.inj h)
      exact .list fun j hj => by cases hj
    next =>
      obtain ⟨⟨items, r⟩, hread, h⟩ := Option.map_eq_some_iff.1 h
      obtain ⟨rfl, rfl⟩ := Prod.mk.inj h
      exact .list (hitems _ _ _ hread)
  next =>
    split at h
    next =>
      obtain ⟨rfl, rfl⟩ := Prod.mk.inj (Option.some.inj h)
      exact .object fun m hm => by cases hm
    next =>
      obtain ⟨⟨members, r⟩, hread, h⟩ := Option.map_eq_some_iff.1 h
      obtain ⟨rfl, rfl⟩ := Prod.mk.inj h
      cases members with
      | none => exact .scalar rfl trivial
      | some members => exact .object (hmembers _ _ _ hread)
  next => exact within_of_readNumber? h _

theorem itemsWithin_succ {fuel : Nat} (hvalues : ValuesWithin fuel) (hitems : ItemsWithin fuel) :
    ItemsWithin (fuel + 1) := by
  intro cs items rest h j hj
  unfold readItems? at h
  obtain ⟨⟨i, r⟩, hread, h⟩ := Option.bind_eq_some_iff.1 h
  have hi : Within Kept (fuel + 1) i := (hvalues _ _ _ hread).of_le (Nat.le_succ _)
  dsimp only at h
  split at h
  next =>
    obtain ⟨⟨more, r'⟩, hmore, h⟩ := Option.bind_eq_some_iff.1 h
    obtain ⟨rfl, rfl⟩ := Prod.mk.inj (Option.some.inj h)
    rcases List.mem_cons.1 hj with rfl | hj
    · exact hi
    · exact (hitems _ _ _ hmore j hj).of_le (Nat.le_succ _)
  next =>
    obtain ⟨rfl, rfl⟩ := Prod.mk.inj (Option.some.inj h)
    obtain rfl := List.mem_singleton.1 hj
    exact hi
  next => cases h

theorem membersWithin_succ {fuel : Nat} (hvalues : ValuesWithin fuel)
    (hmembers : MembersWithin fuel) : MembersWithin (fuel + 1) := by
  intro cs members rest h m hm
  unfold readMembers? at h
  dsimp only at h
  split at h
  next =>
    obtain ⟨⟨key, r⟩, -, h⟩ := Option.bind_eq_some_iff.1 h
    dsimp only at h
    split at h
    next =>
      obtain ⟨⟨i, r'⟩, hread, h⟩ := Option.bind_eq_some_iff.1 h
      have hi : Within Kept (fuel + 1) i := (hvalues _ _ _ hread).of_le (Nat.le_succ _)
      dsimp only at h
      split at h
      next =>
        obtain ⟨⟨more, r''⟩, hmore, h⟩ := Option.bind_eq_some_iff.1 h
        obtain ⟨hkey, -⟩ := Prod.mk.inj (Option.some.inj h)
        obtain ⟨k, -, hkey⟩ := Option.bind_eq_some_iff.1 hkey
        obtain ⟨tail, htail, rfl⟩ := Option.map_eq_some_iff.1 hkey
        obtain rfl : more = some tail := htail
        rcases List.mem_cons.1 hm with rfl | hm
        · exact hi
        · exact (hmembers _ _ _ hmore m hm).of_le (Nat.le_succ _)
      next =>
        obtain ⟨hkey, -⟩ := Prod.mk.inj (Option.some.inj h)
        obtain ⟨k, -, rfl⟩ := Option.map_eq_some_iff.1 hkey
        obtain rfl := List.mem_singleton.1 hm
        exact hi
      next => cases h
    next => cases h
  next => cases h

/-- The fuel bounds the depth of what is read with it. -/
theorem within_fuel (fuel : Nat) :
    ValuesWithin fuel ∧ ItemsWithin fuel ∧ MembersWithin fuel := by
  -- The three readers call each other, so one induction carries the three bounds.
  induction fuel with
  | zero => exact ⟨fun _ _ _ h => (by cases h), fun _ _ _ h => (by cases h),
      fun _ _ _ h => (by cases h)⟩
  | succ fuel ih =>
    obtain ⟨hvalues, hitems, hmembers⟩ := ih
    exact ⟨valuesWithin_succ hitems hmembers, itemsWithin_succ hvalues hitems,
      membersWithin_succ hvalues hmembers⟩

/-- The value of a document has the depth that documents may have, and integers that fit. -/
theorem within_of_parse? {text : String} {j : Json} (h : parse? text = some j) :
    Within Kept maxDepth j := by
  unfold parse? at h
  dsimp only at h
  split at h
  next i rest hread =>
    split at h
    · obtain rfl := Option.some.inj h
      exact within_limitDepth trivial ((within_fuel _).1 _ _ _ hread) maxDepth
    · cases h
  next => cases h

end VariantPlan.Json
