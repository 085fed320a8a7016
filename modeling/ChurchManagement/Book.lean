import Mathlib.Logic.Function.Basic
import ChurchManagement.Refinement

namespace Congregation

open Refinement

/-- What a congregation keeps book of: its members with their entries, the notes about them, and
who has been admitted, in order. -/
structure Book (Id Entry Note : Type) where
  members : Id → Option Entry
  notes : Id → Option Note
  admitted : List Id

/-- What the book asks of entries and notes: which entries may stand beside one another, whose
entry signs a note, and whom a note is about. -/
structure Rules (Id Entry Note : Type) where
  apart : Entry → Entry → Prop
  signed : Entry → Note → Prop
  about : Id → Note → Prop

/-- What can be done to the book. An admission opens a note about a member who has none. -/
inductive Deed (Id Entry Note : Type)
  | enroll (id : Id) (entry : Entry)
  | amend (id : Id) (entry : Entry)
  | record (key author : Id) (note : Note)
  | welcome (id : Id) (opened : Option (Id × Note))
  | strike (key : Id)

section

variable {Id Entry Note : Type} [DecidableEq Id]

inductive Allowed (rules : Rules Id Entry Note) (b : Book Id Entry Note) :
    Deed Id Entry Note → Book Id Entry Note → Prop
  | enroll {id : Id} {entry : Entry} (new : b.members id = none)
      (apart : ∀ other entry', b.members other = some entry' → rules.apart entry' entry) :
      Allowed rules b (.enroll id entry)
        { b with members := Function.update b.members id (some entry) }
  | amend {id : Id} {old entry : Entry} (known : b.members id = some old) :
      Allowed rules b (.amend id entry)
        { b with members := Function.update b.members id (some entry) }
  | record {key author : Id} {entry : Entry} {note : Note} (new : b.notes key = none)
      (known : b.members author = some entry) (signed : rules.signed entry note) :
      Allowed rules b (.record key author note)
        { b with notes := Function.update b.notes key (some note) }
  | welcome {id key : Id} {entry : Entry} {note : Note} (known : b.members id = some entry)
      (present : b.notes key = some note) (about : rules.about id note) :
      Allowed rules b (.welcome id none) { b with admitted := b.admitted ++ [id] }
  | opens {id key : Id} {entry : Entry} {note : Note} (known : b.members id = some entry)
      (new : b.notes key = none) (none : ∀ other note', b.notes other = some note' →
        ¬ rules.about id note') :
      Allowed rules b (.welcome id (some (key, note)))
        { b with notes := Function.update b.notes key (some note), admitted := b.admitted ++ [id] }
  | strike {key : Id} {note : Note} (present : b.notes key = some note) :
      Allowed rules b (.strike key) { b with notes := Function.update b.notes key none }

variable {rules : Rules Id Entry Note} {b b' : Book Id Entry Note} {deed : Deed Id Entry Note}
  {deeds : List (Deed Id Entry Note)}

/-- Whoever has been admitted is a member. -/
def Book.Sound (b : Book Id Entry Note) : Prop := ∀ id ∈ b.admitted, (b.members id).isSome = true

/-- Members stay, and so does the list of admissions as far as it goes. -/
structure Later (b b' : Book Id Entry Note) : Prop where
  members : ∀ id, (b.members id).isSome = true → (b'.members id).isSome = true
  admitted : b.admitted <+: b'.admitted

instance : Std.Refl (@Later Id Entry Note) :=
  ⟨fun _ => ⟨fun _ known => known, List.prefix_rfl⟩⟩

instance : IsTrans (Book Id Entry Note) Later :=
  ⟨fun _ _ _ first second => ⟨fun id known => second.members id (first.members id known),
    first.admitted.trans second.admitted⟩⟩

/-- A value of an updated function is the new one, or an old one at another place. -/
theorem update_cases {β : Type} {f : Id → β} {id other : Id} {v w : β}
    (is : Function.update f id v other = w) : other = id ∧ v = w ∨ other ≠ id ∧ f other = w := by
  by_cases own : other = id
  · rw [own, Function.update_self] at is
    exact .inl ⟨own, is⟩
  · rw [Function.update_of_ne own] at is
    exact .inr ⟨own, is⟩

theorem isSome_update {f : Id → Option Entry} {id other : Id} {entry : Entry}
    (known : (f other).isSome = true) : (Function.update f id (some entry) other).isSome = true := by
  by_cases own : other = id
  · rw [own, Function.update_self, Option.isSome_some]
  · rwa [Function.update_of_ne own]

theorem Allowed.later (taken : Allowed rules b deed b') : Later b b' := by
  cases taken with
  | enroll new apart => exact ⟨fun _ => isSome_update, List.prefix_rfl⟩
  | amend known => exact ⟨fun _ => isSome_update, List.prefix_rfl⟩
  | record new known signed => exact ⟨fun _ known => known, List.prefix_rfl⟩
  | welcome known present about => exact ⟨fun _ known => known, List.prefix_append _ _⟩
  | opens known new none => exact ⟨fun _ known => known, List.prefix_append _ _⟩
  | strike present => exact ⟨fun _ known => known, List.prefix_rfl⟩

theorem Allowed.sound (taken : Allowed rules b deed b') (sound : b.Sound) : b'.Sound := by
  have welcomes {id : Id} {entry : Entry} (known : b.members id = some entry) :
      ∀ other ∈ b.admitted ++ [id], (b.members other).isSome = true := by
    intro other member
    rcases List.mem_append.mp member with old | new
    · exact sound other old
    · rw [List.mem_singleton.mp new, known, Option.isSome_some]
  cases taken with
  | enroll new apart => exact fun id member => isSome_update (sound id member)
  | amend known => exact fun id member => isSome_update (sound id member)
  | record new known signed => exact sound
  | welcome known present about => exact welcomes known
  | opens known new none => exact welcomes known
  | strike present => exact sound

/-- An entry that stands in the book stood there at the start, or was put there by a deed for its
member. -/
theorem entry_origin (trace : Trace (Allowed rules) b deeds b') {id : Id} {entry : Entry}
    (stands : b'.members id = some entry) : b.members id = some entry ∨
      Deed.enroll id entry ∈ deeds ∨ Deed.amend id entry ∈ deeds := by
  induction trace with
  | start => exact .inl stands
  | @next deeds c c' deed _ taken ih =>
    have before (old : c.members id = some entry) : b.members id = some entry ∨
        Deed.enroll id entry ∈ deed :: deeds ∨ Deed.amend id entry ∈ deed :: deeds :=
      (ih old).imp_right (Or.imp (List.mem_cons_of_mem _) (List.mem_cons_of_mem _))
    cases taken with
    | @enroll id' entry' new apart =>
      rcases update_cases stands with ⟨rfl, same⟩ | ⟨_, old⟩
      · exact .inr (.inl (Option.some.inj same ▸ List.mem_cons_self))
      · exact before old
    | @amend id' old entry' known =>
      rcases update_cases stands with ⟨rfl, same⟩ | ⟨_, old⟩
      · exact .inr (.inr (Option.some.inj same ▸ List.mem_cons_self))
      · exact before old
    | record new known signed => exact before stands
    | welcome known present about => exact before stands
    | opens known new none => exact before stands
    | strike present => exact before stands

/-- An entry stays as it is until it is amended. -/
theorem entry_fate (trace : Trace (Allowed rules) b deeds b') {id : Id} {entry : Entry}
    (stood : b.members id = some entry) :
    b'.members id = some entry ∨ ∃ entry', Deed.amend id entry' ∈ deeds := by
  induction trace with
  | start => exact .inl stood
  | @next deeds c c' deed _ taken ih =>
    rcases ih with present | ⟨entry', amended⟩
    · cases taken with
      | @enroll id' entry' new apart =>
        have other : id ≠ id' := by
          rintro rfl
          rw [present] at new
          cases new
        exact .inl ((Function.update_of_ne other _ _).trans present)
      | @amend id' old entry' known =>
        by_cases own : id = id'
        · subst own
          exact .inr ⟨entry', List.mem_cons_self⟩
        · exact .inl ((Function.update_of_ne own _ _).trans present)
      | record new known signed => exact .inl present
      | welcome known present' about => exact .inl present
      | opens known new none => exact .inl present
      | strike present' => exact .inl present
    · exact .inr ⟨entry', List.mem_cons_of_mem _ amended⟩

/-- The members of the book were members at the start or have been enrolled. -/
theorem member_origin (trace : Trace (Allowed rules) b deeds b') {id : Id}
    (known : (b'.members id).isSome = true) :
    (b.members id).isSome = true ∨ ∃ entry, Deed.enroll id entry ∈ deeds := by
  induction trace with
  | start => exact .inl known
  | @next deeds c c' deed _ taken ih =>
    have before (old : (c.members id).isSome = true) : (b.members id).isSome = true ∨
        ∃ entry, Deed.enroll id entry ∈ deed :: deeds :=
      (ih old).imp_right (Exists.imp fun _ => List.mem_cons_of_mem _)
    cases taken with
    | @enroll id' entry' new apart =>
      obtain ⟨entry, isEntry⟩ := Option.isSome_iff_exists.mp known
      rcases update_cases isEntry with ⟨rfl, _⟩ | ⟨_, old⟩
      · exact .inr ⟨entry', List.mem_cons_self⟩
      · exact before (Option.isSome_iff_exists.mpr ⟨entry, old⟩)
    | @amend id' old entry' present =>
      obtain ⟨entry, isEntry⟩ := Option.isSome_iff_exists.mp known
      rcases update_cases isEntry with ⟨rfl, _⟩ | ⟨_, old⟩
      · exact before (Option.isSome_iff_exists.mpr ⟨_, present⟩)
      · exact before (Option.isSome_iff_exists.mpr ⟨entry, old⟩)
    | record new known' signed => exact before known
    | welcome known' present about => exact before known
    | opens known' new none => exact before known
    | strike present => exact before known

/-- A note stays as it is until it is struck. -/
theorem note_fate (trace : Trace (Allowed rules) b deeds b') {key : Id} {note : Note}
    (stood : b.notes key = some note) :
    b'.notes key = some note ∨ Deed.strike key ∈ deeds := by
  induction trace with
  | start => exact .inl stood
  | @next deeds c c' deed _ taken ih =>
    rcases ih with present | struck
    · have other {key' : Id} (new : c.notes key' = none) : key ≠ key' := by
        rintro rfl
        rw [present] at new
        cases new
      cases taken with
      | enroll new apart => exact .inl present
      | amend known => exact .inl present
      | @record key' author entry note' new known signed =>
        exact .inl ((Function.update_of_ne (other new) _ _).trans present)
      | welcome known present' about => exact .inl present
      | @opens id key' entry note' known new none =>
        exact .inl ((Function.update_of_ne (other new) _ _).trans present)
      | @strike key' note' present' =>
        by_cases own : key = key'
        · subst own
          exact .inr List.mem_cons_self
        · exact .inl ((Function.update_of_ne own _ _).trans present)
    · exact .inr (List.mem_cons_of_mem _ struck)

end

end Congregation
