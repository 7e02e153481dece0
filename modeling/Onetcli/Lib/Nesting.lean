import Mathlib.Data.List.Basic

/-!
Nested documents and the events a reader gives of them: a start, what is inside, and the
end. Some elements count as levels; a document without those that are nested deeper than a
limit is read as the events that a counter of the open levels lets through.
-/

namespace Onetcli.Nesting

variable {Tag Leaf Event : Type}

/-- A piece of a document: a leaf, or an element with its content. -/
inductive Node (Tag Leaf : Type) where
  | leaf (leaf : Leaf)
  | element (tag : Tag) (children : List (Node Tag Leaf))

/-- How the pieces are told, and which of them are levels. -/
structure Reading (Tag Leaf Event : Type) where
  start : Tag → Event
  finish : Tag → Event
  leaf : Leaf → Event
  level : Tag → Bool
  /-- The leaves that are levels without content. -/
  bare : Leaf → Bool

variable (reading : Reading Tag Leaf Event)

mutual

def Node.events : Node Tag Leaf → List Event
  | .leaf leaf => [reading.leaf leaf]
  | .element tag children => reading.start tag :: (eventsOf children ++ [reading.finish tag])

def eventsOf : List (Node Tag Leaf) → List Event
  | [] => []
  | node :: rest => node.events ++ eventsOf rest

end

/-! ## Without what is too deep -/

mutual

/-- What is left of a piece below `depth` levels. -/
def Node.within (limit depth : Nat) : Node Tag Leaf → List (Node Tag Leaf)
  | .leaf leaf => if reading.bare leaf && limit ≤ depth then [] else [.leaf leaf]
  | .element tag children =>
    if reading.level tag then
      if limit ≤ depth then [] else [.element tag (withinAll limit (depth + 1) children)]
    else [.element tag (withinAll limit depth children)]

def withinAll (limit depth : Nat) : List (Node Tag Leaf) → List (Node Tag Leaf)
  | [] => []
  | node :: rest => node.within limit depth ++ withinAll limit depth rest

end

/-- A counter of the levels that are open: `next` after an event, `peak` with those that the
event itself belongs to. -/
structure Counter (reading : Reading Tag Leaf Event) where
  next : Nat → Event → Nat
  peak : Nat → Event → Nat
  next_start : ∀ depth tag, next depth (reading.start tag) =
    if reading.level tag then depth + 1 else depth
  peak_start : ∀ depth tag, peak depth (reading.start tag) =
    if reading.level tag then depth + 1 else depth
  next_finish : ∀ depth tag, next depth (reading.finish tag) =
    if reading.level tag then depth - 1 else depth
  peak_finish : ∀ depth tag, peak depth (reading.finish tag) = depth
  next_leaf : ∀ depth leaf, next depth (reading.leaf leaf) = depth
  peak_leaf : ∀ depth leaf, peak depth (reading.leaf leaf) =
    if reading.bare leaf then depth + 1 else depth

variable {reading}

def Counter.depthAfter (counter : Counter reading) (depth : Nat) (events : List Event) : Nat := events.foldl counter.next depth

/-- The events outside of what is too deep. -/
def Counter.kept (counter : Counter reading) (limit depth : Nat) : List Event → List Event
  | [] => []
  | event :: rest =>
    if limit < counter.peak depth event then counter.kept limit (counter.next depth event) rest
    else event :: counter.kept limit (counter.next depth event) rest

theorem Counter.kept_append (counter : Counter reading) (limit depth : Nat) (first second : List Event) :
    counter.kept limit depth (first ++ second) = counter.kept limit depth first ++
        counter.kept limit (counter.depthAfter depth first) second := by
  induction first generalizing depth with
  | nil => rfl
  | cons event rest ih =>
    have later : counter.depthAfter depth (event :: rest) =
        counter.depthAfter (counter.next depth event) rest := rfl
    rw [List.cons_append, Counter.kept, Counter.kept, ih, later]
    split
    · rfl
    · rfl

theorem Counter.depthAfter_append (counter : Counter reading) (depth : Nat) (first second : List Event) :
    counter.depthAfter depth (first ++ second) =
      counter.depthAfter (counter.depthAfter depth first) second :=
  List.foldl_append

mutual

theorem Counter.depthAfter_node (counter : Counter reading) (depth : Nat) :
    (node : Node Tag Leaf) → counter.depthAfter depth (node.events reading) = depth
  | .leaf leaf => counter.next_leaf depth leaf
  | .element tag children => by
    rw [Node.events, depthAfter, List.foldl_cons, counter.next_start]
    split
    · rename_i level
      have inside := counter.depthAfter_events (depth + 1) children
      have whole := counter.depthAfter_append (depth + 1) (eventsOf reading children)
        [reading.finish tag]
      rw [inside] at whole
      refine whole.trans ((counter.next_finish (depth + 1) tag).trans ?_)
      rw [if_pos level, Nat.add_sub_cancel]
    · rename_i other
      have inside := counter.depthAfter_events depth children
      have whole := counter.depthAfter_append depth (eventsOf reading children)
        [reading.finish tag]
      rw [inside] at whole
      refine whole.trans ((counter.next_finish depth tag).trans ?_)
      rw [if_neg other]

theorem Counter.depthAfter_events (counter : Counter reading) (depth : Nat) :
    (nodes : List (Node Tag Leaf)) → counter.depthAfter depth (eventsOf reading nodes) = depth
  | [] => rfl
  | node :: rest => by
    rw [eventsOf, counter.depthAfter_append, counter.depthAfter_node depth node,
      counter.depthAfter_events depth rest]

end

mutual

theorem Counter.kept_deep_node (counter : Counter reading) {limit depth : Nat} (deep : limit < depth) :
    (node : Node Tag Leaf) → counter.kept limit depth (node.events reading) = []
  | .leaf leaf => by
    have above : limit < counter.peak depth (reading.leaf leaf) := by
      rw [counter.peak_leaf]
      split <;> omega
    rw [Node.events, kept, if_pos above, kept]
  | .element tag children => by
    have above : limit < counter.peak depth (reading.start tag) := by
      rw [counter.peak_start]
      split <;> omega
    have below : limit < counter.next depth (reading.start tag) := by
      rw [counter.next_start]
      split <;> omega
    have ending : counter.kept limit (counter.next depth (reading.start tag))
        [reading.finish tag] = [] := by
      rw [kept, counter.peak_finish, if_pos below, kept]
    rw [Node.events, kept, if_pos above, counter.kept_append,
      counter.kept_deep_events below children, counter.depthAfter_events, ending]
    rfl

theorem Counter.kept_deep_events (counter : Counter reading) {limit depth : Nat} (deep : limit < depth) :
    (nodes : List (Node Tag Leaf)) → counter.kept limit depth (eventsOf reading nodes) = []
  | [] => rfl
  | node :: rest => by
    rw [eventsOf, counter.kept_append, counter.kept_deep_node deep node,
      counter.depthAfter_node, counter.kept_deep_events deep rest]
    rfl

end

mutual

theorem Counter.kept_node (counter : Counter reading) {limit depth : Nat} (within : depth ≤ limit) : (node : Node Tag Leaf) →
    counter.kept limit depth (node.events reading) =
      eventsOf reading (node.within reading limit depth)
  | .leaf leaf => by
    rw [Node.events, kept, counter.peak_leaf, Node.within]
    by_cases bare : reading.bare leaf = true
    · by_cases full : limit ≤ depth
      · rw [if_pos bare, if_pos (Nat.lt_succ_of_le full), bare, if_pos (by simpa using full)]
        rfl
      · rw [if_pos bare, if_neg (by omega), bare, if_neg (by simpa using full)]
        rfl
    · rw [if_neg bare, if_neg (by omega), if_neg (by simp [bare])]
      rfl
  | .element tag children => by
    have ending {open_ : Nat} (shallow : open_ ≤ limit) :
        counter.kept limit open_ [reading.finish tag] = [reading.finish tag] := by
      rw [kept, counter.peak_finish, if_neg (by omega), kept]
    rw [Node.events, kept, counter.peak_start, counter.next_start, counter.kept_append,
      counter.depthAfter_events, Node.within]
    by_cases level : reading.level tag = true
    · rw [if_pos level, if_pos level]
      by_cases full : limit ≤ depth
      · -- The element is the first that is too deep: it is dropped with all that is in it.
        have deep : limit < depth + 1 := Nat.lt_succ_of_le full
        have dropped : counter.kept limit (depth + 1) [reading.finish tag] = [] := by
          rw [kept, counter.peak_finish, if_pos deep, kept]
        rw [if_pos deep, counter.kept_deep_events deep children, dropped, if_pos full]
        rfl
      · have shallow : depth + 1 ≤ limit := Nat.lt_of_not_le full
        rw [if_neg (by omega), counter.kept_events shallow children, ending shallow,
          if_neg full, eventsOf, eventsOf, Node.events, List.append_nil]
    · rw [if_neg level, if_neg level, if_neg (by omega), counter.kept_events within children,
        ending within, eventsOf, eventsOf, Node.events, List.append_nil]

-- What the counter lets through is what is read of the document without the elements that are
-- too deep.
theorem Counter.kept_events (counter : Counter reading) {limit depth : Nat} (within : depth ≤ limit) :
    (nodes : List (Node Tag Leaf)) → counter.kept limit depth (eventsOf reading nodes) =
      eventsOf reading (withinAll reading limit depth nodes)
  | [] => rfl
  | node :: rest => by
    have joined (first second : List (Node Tag Leaf)) :
        eventsOf reading (first ++ second) = eventsOf reading first ++ eventsOf reading second := by
      induction first with
      | nil => rfl
      | cons head tail ih => rw [List.cons_append, eventsOf, eventsOf, ih, List.append_assoc]
    rw [eventsOf, counter.kept_append, counter.kept_node within node,
      counter.depthAfter_node, counter.kept_events within rest, withinAll, joined]

end

end Onetcli.Nesting
