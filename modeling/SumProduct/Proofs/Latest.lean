/-
The latest entry for a message.

A search from the front and one from the end find the same entry for the message on a socket.  Notes
that are taken while the entries are gone through tell the same: whatever the sockets, and however often
they are met again, they hold for each of them the index of its latest entry.
-/

import Mathlib.Data.List.Induction
import SumProduct.Proofs.Association
import SumProduct.Schedule.Basic

set_option autoImplicit false

namespace SumProduct

variable {schedule : Schedule} {socket : Socket}

/-! ### Searching -/

theorem Schedule.lastFrom_bounds {first place : Nat}
    (located : Schedule.lastFrom socket first schedule = some place) :
    first ≤ place ∧ place < first + schedule.length := by
  induction schedule generalizing first with
  | nil => cases located
  | cons entry rest ih =>
      rw [Schedule.lastFrom] at located
      rw [List.length_cons]
      split at located
      · rename_i other later
        cases located
        have bounds := ih later
        omega
      · split at located
        · cases located
          omega
        · cases located

theorem Schedule.indexOf_lt {place : Nat}
    (located : schedule.indexOf socket = some place) : place < schedule.length := by
  have bounds := Schedule.lastFrom_bounds located
  omega

theorem Schedule.exists_lastFrom {place : Nat} {entry : Entry} (first : Nat)
    (present : schedule[place]? = some entry) :
    ∃ found, Schedule.lastFrom entry.socket first schedule = some found := by
  induction schedule generalizing first place with
  | nil => cases present
  | cons head rest ih =>
      rw [Schedule.lastFrom]
      cases place with
      | zero =>
          cases present
          split
          · exact ⟨_, rfl⟩
          · exact ⟨first, if_pos rfl⟩
      | succ place =>
          obtain ⟨found, later⟩ := ih (first + 1) present
          rw [later]
          exact ⟨found, rfl⟩

theorem Schedule.lastFrom_latest {first place : Nat}
    (located : Schedule.lastFrom socket first schedule = some place) :
    (∃ entry, schedule[place - first]? = some entry ∧ entry.socket = socket) ∧
      ∀ (offset : Nat) entry, schedule[offset]? = some entry → entry.socket = socket →
        first + offset ≤ place := by
  induction schedule generalizing first with
  | nil => cases located
  | cons entry rest ih =>
      rw [Schedule.lastFrom] at located
      cases later : Schedule.lastFrom socket (first + 1) rest with
      | some found =>
          rw [later] at located
          cases located
          have bounds := Schedule.lastFrom_bounds later
          obtain ⟨⟨last, present, same⟩, latest⟩ := ih later
          constructor
          · refine ⟨last, ?_, same⟩
            have shifted : place - first = place - (first + 1) + 1 := by omega
            rw [shifted, List.getElem?_cons_succ]
            exact present
          · intro offset next here matching
            cases offset with
            | zero => omega
            | succ offset =>
                have bound := latest offset next here matching
                omega
      | none =>
          rw [later] at located
          simp only at located
          split at located
          · rename_i same
            cases located
            constructor
            · rw [Nat.sub_self]
              exact ⟨entry, rfl, same⟩
            · intro offset next here matching
              cases offset with
              | zero => omega
              | succ offset =>
                  rw [List.getElem?_cons_succ] at here
                  obtain ⟨found, impossible⟩ := Schedule.exists_lastFrom (place + 1) here
                  rw [matching, later] at impossible
                  cases impossible
          · cases located

theorem Schedule.exists_indexOf {place : Nat} {entry : Entry} (present : schedule[place]? = some entry) :
    ∃ found, schedule.indexOf entry.socket = some found := Schedule.exists_lastFrom 0 present

theorem Schedule.lastFrom_append_singleton (socket : Socket) (first : Nat) (schedule : Schedule)
    (entry : Entry) : Schedule.lastFrom socket first (schedule ++ [entry])
      = if socket = entry.socket then some (first + schedule.length)
        else Schedule.lastFrom socket first schedule := by
  induction schedule generalizing first with
  | nil =>
      by_cases same : socket = entry.socket
      · rw [List.nil_append, Schedule.lastFrom, Schedule.lastFrom, if_pos same.symm, if_pos same]
        rfl
      · rw [List.nil_append, Schedule.lastFrom, Schedule.lastFrom, if_neg (Ne.symm same), if_neg same]
        rfl
  | cons head rest ih =>
      rw [List.cons_append, Schedule.lastFrom, ih, List.length_cons, Nat.add_assoc, Nat.add_comm 1]
      by_cases same : socket = entry.socket
      · rw [if_pos same, if_pos same]
      · rw [if_neg same, if_neg same, Schedule.lastFrom]

/-- One more entry is the latest one for its socket, and leaves the others as they were. -/
theorem Schedule.indexOf_append_singleton (schedule : Schedule) (entry : Entry) (socket : Socket) :
    Schedule.indexOf (schedule ++ [entry]) socket
      = if socket = entry.socket then some schedule.length else schedule.indexOf socket := by
  rw [Schedule.indexOf, Schedule.lastFrom_append_singleton, Nat.zero_add]
  rfl

/-- The place of the last entry that computes the message on a socket, looked for from the end. -/
def Schedule.lastPlace (schedule : Schedule) (socket : Socket) : Option Nat :=
  (schedule.zipIdx.reverse.find? fun entry => entry.1.socket = socket).map Prod.snd

/-- Looking from the end finds what a search from the front keeps to the last. -/
theorem Schedule.lastPlace_eq (schedule : Schedule) (socket : Socket) :
    schedule.lastPlace socket = schedule.indexOf socket := by
  induction schedule using List.reverseRecOn with
  | nil => rfl
  | append_singleton rest entry ih =>
      rw [Schedule.indexOf_append_singleton, ← ih, Schedule.lastPlace, List.zipIdx_append,
        List.reverse_append, List.zipIdx_singleton, List.reverse_singleton, List.singleton_append,
        List.find?_cons, Nat.zero_add]
      by_cases same : socket = entry.socket
      · rw [if_pos same, decide_eq_true same.symm]
        rfl
      · rw [if_neg same, decide_eq_false (Ne.symm same)]
        rfl

/-! ### Taking notes -/

namespace SocketIndex

variable {noted : SocketIndex}

/-- The notes hold for every socket the index of its latest entry, and nothing for other sockets. -/
def Indexes (noted : SocketIndex) (schedule : Schedule) : Prop :=
  ∀ socket, noted.lookup socket = schedule.indexOf socket

theorem Indexes.empty : Indexes [] [] := fun _ => rfl

/-- The step lemma: what is noted for the next entry takes the place of an earlier note. -/
theorem Indexes.note (indexes : noted.Indexes schedule) (entry : Entry) :
    (noted.note entry.socket schedule.length).Indexes (schedule ++ [entry]) := by
  intro socket
  rw [SocketIndex.note, Association.lookup_set, Schedule.indexOf_append_singleton, indexes socket]

/-- The notes after further entries, the first of which has the given index. -/
def after (noted : SocketIndex) (first : Nat) : Schedule → SocketIndex
  | [] => noted
  | entry :: rest => (noted.note entry.socket first).after (first + 1) rest

/-- The run lemma: notes on further entries. -/
theorem Indexes.after (indexes : noted.Indexes schedule) (rest : Schedule) :
    (noted.after schedule.length rest).Indexes (schedule ++ rest) := by
  induction rest generalizing noted schedule with
  | nil =>
      rw [List.append_nil]
      exact indexes
  | cons entry rest ih =>
      have onwards := ih (indexes.note entry)
      rw [List.length_append, List.length_singleton, List.append_assoc, List.singleton_append] at onwards
      exact onwards

end SocketIndex

/-- What has been noted after all entries. -/
def Schedule.slots (schedule : Schedule) : SocketIndex := SocketIndex.after [] 0 schedule

theorem Schedule.slots_indexes (schedule : Schedule) : schedule.slots.Indexes schedule :=
  SocketIndex.Indexes.empty.after schedule

end SumProduct
