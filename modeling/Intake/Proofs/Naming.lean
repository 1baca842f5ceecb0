import Intake.Parser.Spread

/-!
# Names of elements

An element whose name is taken gets that name with a number at its end. What comes out may be taken
as well.

* `isNumbered_of_append_eq`: two names that become one by different numbers already differ by a
  number at the end.
* `Slot.ofName?_numbered`: no slot has a number at the end of its name.
* `Context.Naming.ToldApart`: no name that comes again is, with a number at its end, an earlier one.
* `Context.Naming.nodup_giveAll`: **names are given once each**, if they are told apart by numbers.
-/

namespace Intake

/-- The first name is the second one with a number at its end, which is below a bound. -/
def IsNumbered (bound : Nat) (a b : String) : Prop :=
  ∃ k, 0 < k ∧ k < bound ∧ a = b ++ toString k

instance (bound : Nat) (a b : String) : Decidable (IsNumbered bound a b) :=
  decidable_of_iff (∃ k, k < bound ∧ 0 < k ∧ a = b ++ toString k)
    ⟨fun ⟨k, hlt, hpos, h⟩ => ⟨k, hpos, hlt, h⟩, fun ⟨k, hpos, hlt, h⟩ => ⟨k, hlt, hpos, h⟩⟩

section Numbers

theorem toList_append_toString (a : String) (i : Nat) :
    (a ++ toString i).toList = a.toList ++ Nat.toDigits 10 i := by
  rw [String.toList_append, Nat.toString_eq_repr, Nat.toList_repr]

theorem toDigits_injective {i j : Nat} (h : Nat.toDigits 10 i = Nat.toDigits 10 j) : i = j := by
  have hread := congrArg (Nat.ofDigitChars 10 · 0) h
  simpa using hread

theorem length_toDigits_mono {i j : Nat} (h : i ≤ j) :
    (Nat.toDigits 10 i).length ≤ (Nat.toDigits 10 j).length := by
  have hpos : 0 < (Nat.toDigits 10 j).length := Nat.length_toDigits_pos
  have hj : j < 10 ^ (Nat.toDigits 10 j).length :=
    (Nat.length_toDigits_le_iff (by decide) hpos).1 (Nat.le_refl _)
  exact (Nat.length_toDigits_le_iff (by decide) hpos).2 (by omega)

/-- The digits that a number starts with are those of a number. -/
theorem exists_toDigits_of_prefix {j : Nat} {front back : List Char} (hj : 0 < j)
    (hfront : front ≠ []) (h : Nat.toDigits 10 j = front ++ back) :
    ∃ k, 0 < k ∧ k ≤ j ∧ front = Nat.toDigits 10 k := by
  induction j using Nat.strongRecOn generalizing back with
  | ind j ih =>
    rcases List.eq_nil_or_concat back with rfl | ⟨init, c, rfl⟩
    · exact ⟨j, hj, Nat.le_refl j, by rw [h, List.append_nil]⟩
    rcases Nat.lt_or_ge j 10 with hlt | hge
    · -- one digit has no two parts
      rw [Nat.toDigits_of_lt_base hlt, List.concat_eq_append, ← List.append_assoc] at h
      have hlength := congrArg List.length h
      have hfrontpos := List.length_pos_iff.2 hfront
      simp only [List.length_append, List.length_singleton] at hlength
      omega
    · rw [Nat.toDigits_of_base_le (by decide) hge, List.concat_eq_append,
        ← List.append_assoc] at h
      obtain ⟨hinit, -⟩ := List.append_inj' h rfl
      obtain ⟨k, hk, hle, hdigits⟩ := ih (j / 10) (by omega) (by omega) hinit
      exact ⟨k, hk, by omega, hdigits⟩

/-- **Two names that become one by different numbers**: the one with the smaller number is the other
one with a number at its end. -/
theorem isNumbered_of_append_eq {a b : String} {i j : Nat} (hij : i < j)
    (h : a ++ toString i = b ++ toString j) : IsNumbered j a b := by
  have hlist := congrArg String.toList h
  rw [toList_append_toString, toList_append_toString, List.append_eq_append_iff] at hlist
  have hne : Nat.toDigits 10 i ≠ Nat.toDigits 10 j := fun heq =>
    absurd (toDigits_injective heq) (Nat.ne_of_lt hij)
  rcases hlist with ⟨c, -, hdigits⟩ | ⟨c, hnames, hdigits⟩
  · -- the smaller number cannot have more digits
    have hlength := congrArg List.length hdigits
    have hmono := length_toDigits_mono (Nat.le_of_lt hij)
    rw [List.length_append] at hlength
    obtain rfl : c = [] := List.eq_nil_of_length_eq_zero (by omega)
    exact absurd hdigits hne
  · have hc : c ≠ [] := by
      rintro rfl
      exact hne hdigits.symm
    obtain ⟨k, hk, hle, rfl⟩ := exists_toDigits_of_prefix (by omega) hc hdigits
    refine ⟨k, hk, ?_, ?_⟩
    · refine Nat.lt_of_le_of_ne hle ?_
      rintro rfl
      exact absurd (List.self_eq_append_right.1 hdigits) Nat.toDigits_ne_nil
    · rw [← String.toList_inj, toList_append_toString, hnames]

end Numbers

namespace Slot

/-- No slot has a number at the end of its name. -/
theorem ofName?_numbered (name : String) (k : Nat) : ofName? (name ++ toString k) = none := by
  cases hslot : ofName? (name ++ toString k) with
  | none => rfl
  | some slot =>
    exfalso
    have hlast := congrArg (·.toList.getLast?) (name_of_ofName? hslot)
    simp only [toList_append_toString] at hlast
    rw [List.getLast?_append, List.getLast?_eq_some_getLast Nat.toDigits_ne_nil,
      Option.some_or] at hlast
    have hdigit : ((Nat.toDigits 10 k).getLast Nat.toDigits_ne_nil).isDigit = true :=
      Nat.isDigit_of_mem_toDigits (by decide) (by decide) (List.getLast_mem _)
    have hletters : ∀ s : Slot, (s.name.toList.getLast?.any Char.isDigit) = false := by
      intro s
      cases s <;> decide
    have hletter := hletters slot
    rw [hlast, Option.any_some, hdigit] at hletter
    cases hletter

end Slot

namespace Context

namespace Naming

/-- The names that are given to a list of names, one after the other. -/
def giveAll (n : Naming) : List String → List String
  | [] => []
  | name :: rest => (n.give name).1 :: (n.give name).2.giveAll rest

/-- A name may be taken after others: it is one of them or, once one of them came twice, one of them
with a number at its end. -/
def MayBeTaken (bound : Nat) (past : List String) (name : String) : Prop :=
  name ∈ past ∨ ¬ past.Nodup ∧ ∃ p ∈ past, IsNumbered bound name p

instance (bound : Nat) (past : List String) (name : String) :
    Decidable (MayBeTaken bound past name) :=
  inferInstanceAs (Decidable (_ ∨ _))

/-- Numbers tell names apart that come after others: no name that may be taken when its turn comes
is, with a number at its end, an earlier one. -/
def ToldApart (bound : Nat) : List String → List String → Prop
  | _, [] => True
  | past, name :: rest =>
    (MayBeTaken bound past name → ∀ p ∈ past, ¬ IsNumbered bound p name) ∧
      ToldApart bound (name :: past) rest

instance decidableToldApart (bound : Nat) :
    (past names : List String) → Decidable (ToldApart bound past names)
  | _, [] => .isTrue trivial
  | past, name :: rest =>
    have := decidableToldApart bound (name :: past) rest
    inferInstanceAs (Decidable (_ ∧ _))

/-- What is known after names were asked for: no name was given twice, each that was given was asked
for or was with a number at its end, and there are numbers only if a name was asked for twice. -/
structure Follows (n : Naming) (past : List String) : Prop where
  nodup : n.taken.Nodup
  suffix_le : n.suffix ≤ past.length - 1
  repeated : 0 < n.suffix → ¬ past.Nodup
  source : ∀ t ∈ n.taken, t ∈ past ∨ ∃ p ∈ past, ∃ k, 0 < k ∧ k ≤ n.suffix ∧ t = p ++ toString k

variable {n : Naming} {past names : List String} {name : String} {bound : Nat}

/-- A name is given as it is or with a number at its end, and counts as taken from then on. -/
theorem give_cases (n : Naming) (name : String) :
    (name ∉ n.taken ∧ n.give name = (name, ⟨name :: n.taken, n.suffix⟩)) ∨
      (name ∈ n.taken ∧ n.give name =
        (name ++ toString (n.suffix + 1),
          ⟨(name ++ toString (n.suffix + 1)) :: n.taken, n.suffix + 1⟩)) := by
  unfold give
  by_cases h : name ∈ n.taken
  · exact .inr ⟨h, if_pos h⟩
  · exact .inl ⟨h, if_neg h⟩

/-- The names that are given are those that were asked for, some with a number at their end. -/
theorem mem_giveAll {x : String} (h : x ∈ n.giveAll names) :
    x ∈ names ∨ ∃ name ∈ names, ∃ k : Nat, x = name ++ toString k := by
  induction names generalizing n with
  | nil => cases h
  | cons name rest ih =>
    rcases List.mem_cons.1 h with rfl | h
    · rcases n.give_cases name with ⟨-, hgive⟩ | ⟨-, hgive⟩
      · rw [hgive]
        exact .inl List.mem_cons_self
      · rw [hgive]
        exact .inr ⟨name, List.mem_cons_self, n.suffix + 1, rfl⟩
    · rcases ih h with hx | ⟨other, hother, hx⟩
      · exact .inl (List.mem_cons_of_mem _ hx)
      · exact .inr ⟨other, List.mem_cons_of_mem _ hother, hx⟩

theorem taken_give (n : Naming) (name : String) :
    (n.give name).2.taken = (n.give name).1 :: n.taken := by
  rcases n.give_cases name with ⟨-, h⟩ | ⟨-, h⟩ <;> rw [h]

/-- A name that is taken is one that may be taken after the names that were asked for. -/
theorem Follows.mayBeTaken (h : n.Follows past) (hbound : past.length < bound)
    (htaken : name ∈ n.taken) : MayBeTaken bound past name := by
  have hsuffix := h.suffix_le
  rcases h.source name htaken with hp | ⟨p, hp, k, hk, hle, heq⟩
  · exact .inl hp
  · exact .inr ⟨h.repeated (by omega), p, hp, k, hk, by omega, heq⟩

/-- A name with the next number is not taken, unless an earlier name ends in a number where this one
ends. -/
theorem Follows.numbered_not_mem (h : n.Follows past) (hpast : past ≠ [])
    (hbound : past.length < bound) (hplain : ∀ p ∈ past, ¬ IsNumbered bound p name) :
    name ++ toString (n.suffix + 1) ∉ n.taken := by
  have hpos := List.length_pos_iff.2 hpast
  have hsuffix := h.suffix_le
  intro htaken
  rcases h.source _ htaken with hp | ⟨p, hp, k, hk, hle, heq⟩
  · exact hplain _ hp ⟨n.suffix + 1, by omega, by omega, rfl⟩
  · obtain ⟨k', hpos', hlt, rfl⟩ := isNumbered_of_append_eq (by omega) heq.symm
    exact hplain _ hp ⟨k', hpos', by omega, rfl⟩

/-- A name that is taken was asked for before, or another one was twice. -/
theorem Follows.not_nodup (h : n.Follows past) (htaken : name ∈ n.taken) :
    ¬ (name :: past).Nodup := by
  rw [List.nodup_cons]
  rintro ⟨hnew, hnodup⟩
  rcases h.source name htaken with hp | ⟨p, hp, k, hk, hle, -⟩
  · exact hnew hp
  · exact h.repeated (by omega) hnodup

/-- One more name is given once. -/
theorem Follows.give (h : n.Follows past) (hbound : past.length < bound)
    (hplain : MayBeTaken bound past name → ∀ p ∈ past, ¬ IsNumbered bound p name) :
    (n.give name).1 ∉ n.taken ∧ (n.give name).2.Follows (name :: past) := by
  have hsuffix := h.suffix_le
  rcases n.give_cases name with ⟨hfree, hgive⟩ | ⟨htaken, hgive⟩
  · rw [hgive]
    refine ⟨hfree, List.nodup_cons.2 ⟨hfree, h.nodup⟩, ?_, ?_, ?_⟩
    · rw [List.length_cons]
      simp only
      omega
    · intro hpos hnodup
      exact h.repeated hpos (List.nodup_cons.1 hnodup).2
    · intro t ht
      rcases List.mem_cons.1 ht with rfl | ht
      · exact .inl List.mem_cons_self
      · rcases h.source t ht with hp | ⟨p, hp, hk⟩
        · exact .inl (List.mem_cons_of_mem _ hp)
        · exact .inr ⟨p, List.mem_cons_of_mem _ hp, hk⟩
  · -- a name is only taken after others were asked for
    have hpast : past ≠ [] := by
      rintro rfl
      rcases h.source name htaken with hp | ⟨p, hp, -⟩
      · cases hp
      · cases hp
    have hfree := h.numbered_not_mem hpast hbound (hplain (h.mayBeTaken hbound htaken))
    have hpos := List.length_pos_iff.2 hpast
    rw [hgive]
    refine ⟨hfree, List.nodup_cons.2 ⟨hfree, h.nodup⟩, ?_, fun _ => h.not_nodup htaken, ?_⟩
    · rw [List.length_cons]
      simp only
      omega
    · intro t ht
      rcases List.mem_cons.1 ht with rfl | ht
      · exact .inr ⟨name, List.mem_cons_self, n.suffix + 1, by omega, Nat.le_refl _, rfl⟩
      · rcases h.source t ht with hp | ⟨p, hp, k, hk, hle, rfl⟩
        · exact .inl (List.mem_cons_of_mem _ hp)
        · exact .inr ⟨p, List.mem_cons_of_mem _ hp, k, hk, Nat.le_succ_of_le hle, rfl⟩

/-- Names that follow others are given once each, and none that was given before. -/
theorem Follows.giveAll (h : n.Follows past) (hbound : past.length + names.length ≤ bound)
    (hnames : ToldApart bound past names) :
    (n.giveAll names).Nodup ∧ ∀ x ∈ n.giveAll names, x ∉ n.taken := by
  induction names generalizing n past with
  | nil => exact ⟨List.nodup_nil, fun x hx => absurd hx List.not_mem_nil⟩
  | cons name rest ih =>
    rw [List.length_cons] at hbound
    obtain ⟨hname, hrest⟩ := hnames
    obtain ⟨hfree, hnext⟩ := h.give (by omega) hname
    obtain ⟨hnodup, hnew⟩ := ih hnext (by rw [List.length_cons]; omega) hrest
    rw [taken_give] at hnew
    rw [Naming.giveAll]
    refine ⟨List.nodup_cons.2 ⟨fun hmem => hnew _ hmem List.mem_cons_self, hnodup⟩, ?_⟩
    intro x hx
    rcases List.mem_cons.1 hx with rfl | hx
    · exact hfree
    · exact fun htaken => hnew x hx (List.mem_cons_of_mem _ htaken)

/-- **Names are given once each**, if numbers below the number of names tell them apart. -/
theorem nodup_giveAll (h : ToldApart names.length [] names) :
    (({} : Naming).giveAll names).Nodup := by
  have hstart : ({} : Naming).Follows [] :=
    ⟨List.nodup_nil, Nat.le_refl 0, fun hpos => absurd hpos (Nat.lt_irrefl 0),
      fun t ht => absurd ht List.not_mem_nil⟩
  exact (hstart.giveAll (by simp) h).1

end Naming

end Context

end Intake
