import Mathlib

/-!
Writing parts of a list in place. A segment is a range of places; a payload is cut along
segments and written to them one after the other. What lies in no segment stays, and a
payload that was gathered from a source leaves the source's items in every segment,
whether or not the segments overlap.
-/

namespace Onetcli.Segments

variable {Item : Type}

structure Segment where
  start : Nat
  length : Nat

def Segment.Covers (segment : Segment) (place : Nat) : Prop :=
  segment.start ≤ place ∧ place < segment.start + segment.length

/-- Items written over those of a list from a place on. -/
def splice (items : List Item) (start : Nat) (data : List Item) : List Item :=
  items.take start ++ data ++ items.drop (start + data.length)

def cut (items : List Item) (segment : Segment) : List Item :=
  (items.drop segment.start).take segment.length

def patch : List Item → List Segment → List Item → List Item
  | items, [], _ => items
  | items, segment :: rest, payload =>
    patch (splice items segment.start (payload.take segment.length)) rest
      (payload.drop segment.length)

def gather (items : List Item) (segments : List Segment) : List Item :=
  segments.flatMap (cut items)

def total (segments : List Segment) : Nat :=
  (segments.map (·.length)).sum

def Within (length : Nat) (segments : List Segment) : Prop :=
  ∀ segment ∈ segments, segment.start + segment.length ≤ length

variable {items source payload : List Item} {segments : List Segment}

theorem splice_length {data : List Item} {start : Nat} (fits : start + data.length ≤ items.length) :
    (splice items start data).length = items.length := by
  simp only [splice, List.length_append, List.length_take, List.length_drop]
  omega

theorem splice_outside {data : List Item} {start place : Nat}
    (fits : start + data.length ≤ items.length)
    (outside : place < start ∨ start + data.length ≤ place) :
    (splice items start data)[place]? = items[place]? := by
  rw [splice, List.getElem?_append, List.getElem?_append]
  simp only [List.length_append, List.length_take, List.getElem?_take, List.getElem?_drop]
  rcases outside with before | after
  · rw [if_pos (by omega), if_pos (by omega), if_pos before]
  · rw [if_neg (by omega)]
    congr 1
    omega

theorem splice_inside {data : List Item} {start place : Nat}
    (fits : start + data.length ≤ items.length) (after : start ≤ place)
    (before : place < start + data.length) :
    (splice items start data)[place]? = data[place - start]? := by
  rw [splice, List.getElem?_append, List.getElem?_append]
  simp only [List.length_append, List.length_take]
  rw [if_pos (by omega), if_neg (by omega)]
  congr 1
  omega

theorem cut_length {segment : Segment} (fits : segment.start + segment.length ≤ items.length) :
    (cut items segment).length = segment.length := by
  rw [cut, List.length_take, List.length_drop]
  omega

theorem gather_length (within : Within items.length segments) :
    (gather items segments).length = total segments := by
  induction segments with
  | nil => rfl
  | cons segment rest ih =>
    rw [gather, List.flatMap_cons, List.length_append, total, List.map_cons, List.sum_cons,
      cut_length (within segment List.mem_cons_self)]
    congr 1
    exact ih fun other member => within other (List.mem_cons_of_mem _ member)

theorem within_cons {length : Nat} {segment : Segment}
    (within : Within length (segment :: segments)) :
    segment.start + segment.length ≤ length ∧ Within length segments :=
  ⟨within segment List.mem_cons_self,
    fun other member => within other (List.mem_cons_of_mem _ member)⟩

theorem patch_length (within : Within items.length segments)
    (enough : total segments ≤ payload.length) :
    (patch items segments payload).length = items.length := by
  induction segments generalizing items payload with
  | nil => rfl
  | cons segment rest ih =>
    rw [total, List.map_cons, List.sum_cons] at enough
    rcases within_cons within with ⟨fits, others⟩
    have taken : (payload.take segment.length).length = segment.length := by
      rw [List.length_take]
      omega
    have bound : segment.start + (payload.take segment.length).length ≤ items.length := by
      rw [taken]
      exact fits
    rw [patch, ih, splice_length bound]
    · rw [splice_length bound]
      exact others
    · rw [List.length_drop, total]
      omega

theorem patch_outside (within : Within items.length segments)
    (enough : total segments ≤ payload.length) {place : Nat}
    (outside : ∀ segment ∈ segments, ¬ segment.Covers place) :
    (patch items segments payload)[place]? = items[place]? := by
  induction segments generalizing items payload with
  | nil => rfl
  | cons segment rest ih =>
    rw [total, List.map_cons, List.sum_cons] at enough
    rcases within_cons within with ⟨fits, others⟩
    have taken : (payload.take segment.length).length = segment.length := by
      rw [List.length_take]
      omega
    have bound : segment.start + (payload.take segment.length).length ≤ items.length := by
      rw [taken]
      exact fits
    have here := outside segment List.mem_cons_self
    rw [patch, ih, splice_outside bound]
    · rw [taken]
      rw [Segment.Covers] at here
      omega
    · rw [splice_length bound]
      exact others
    · rw [List.length_drop, total]
      omega
    · exact fun other member => outside other (List.mem_cons_of_mem _ member)

theorem patch_gather (same : source.length = items.length)
    (within : Within items.length segments) {place : Nat}
    (agrees : (∀ segment ∈ segments, ¬ segment.Covers place) → items[place]? = source[place]?) :
    (patch items segments (gather source segments))[place]? = source[place]? := by
  induction segments generalizing items with
  | nil => exact agrees nofun
  | cons segment rest ih =>
    rcases within_cons within with ⟨fits, others⟩
    have length : (cut source segment).length = segment.length := cut_length (same ▸ fits)
    have taken : (gather source (segment :: rest)).take segment.length = cut source segment := by
      rw [gather, List.flatMap_cons, ← length, List.take_left]
    have left : (gather source (segment :: rest)).drop segment.length = gather source rest := by
      rw [gather, List.flatMap_cons, ← length, List.drop_left]
      rfl
    have bound : segment.start + (cut source segment).length ≤ items.length := length ▸ fits
    rw [patch, taken, left]
    apply ih
    · rw [splice_length bound]
      exact same
    · rw [splice_length bound]
      exact others
    · intro outside
      by_cases covers : segment.Covers place
      · rcases covers with ⟨after, before⟩
        rw [splice_inside bound after (length.symm ▸ before), cut, List.getElem?_take,
          List.getElem?_drop, if_pos (by omega)]
        congr 1
        omega
      · have away : place < segment.start ∨
            segment.start + (cut source segment).length ≤ place := by
          rw [length]
          rw [Segment.Covers] at covers
          omega
        rw [splice_outside bound away]
        apply agrees
        intro other member
        rcases List.mem_cons.mp member with rfl | later
        · exact covers
        · exact outside other later

theorem patch_append (more : List Item) (others : List Segment)
    (exactly : payload.length = total segments) :
    patch items (segments ++ others) (payload ++ more) =
      patch (patch items segments payload) others more := by
  induction segments generalizing items payload with
  | nil =>
    have empty : payload = [] := List.length_eq_zero_iff.mp exactly
    rw [empty]
    rfl
  | cons segment rest ih =>
    rw [total, List.map_cons, List.sum_cons] at exactly
    have enough : segment.length ≤ payload.length := by omega
    rw [List.cons_append, patch, List.take_append_of_le_length enough,
      List.drop_append_of_le_length enough]
    apply ih
    rw [List.length_drop, total]
    omega

end Onetcli.Segments
