import Mathlib.Algebra.GroupWithZero.Nat
import Onetcli.Rdp.Input

/-!
What the input queue takes, in which order and at which mouse position, for every pattern of its
answers.
-/

namespace Onetcli.Rdp.Input

open Histories

/-! ## What a history tells -/

def Observed.item : Observed → Option Item
  | .enqueued item => some item
  | .requested _ => none

def Observed.request : Observed → Option HelperRequest
  | .requested request => some request
  | .enqueued _ => none

def enqueuedItems (history : List Observed) : List Item := history.filterMap Observed.item

def requestsRead (history : List Observed) : List HelperRequest :=
  history.filterMap Observed.request

def Item.isMove : Item → Bool
  | .operation (.mouseMove _) => true
  | _ => false

@[simp] theorem isMove_mouseMove (position : MousePosition) :
    (Item.operation (.mouseMove position)).isMove = true := rfl

/-- The items that must not get lost. -/
def others (history : List Observed) : List Item :=
  (enqueuedItems history).filter fun item => !item.isMove

def requestedCharacters (characters : List Char) : List Item :=
  characters.flatMap fun character =>
    [.operation (.unicodeKeyPressed character), .operation (.unicodeKeyReleased character)]

def requestedItems : HelperRequest → List Item
  | .resize width height scaleFactor => [.resize width height scaleFactor]
  | .mouseButton button pressed => [.operation (mouseButtonOperation button pressed)]
  | .wheel vertical units => [.operation (.wheelRotations ⟨vertical, units⟩)]
  | .key code extended pressed =>
    match keyOperation code extended pressed with
    | .ok operation => [.operation operation]
    | .error _ => []
  | .text text => requestedCharacters text.toList
  | _ => []

def due (history : List Observed) : List Item := (requestsRead history).flatMap requestedItems

def noteMove (latest : Option MousePosition) : Observed → Option MousePosition
  | .requested (.mouseMove x y) => some ⟨x, y⟩
  | .requested (.resize _ _ _) => none
  | _ => latest

/-- The position of the latest move that was requested since the last resize. -/
def latestMove (history : List Observed) : Option MousePosition := history.foldl noteMove none

def notePosition (position : Option MousePosition) : Observed → Option MousePosition
  | .enqueued (.operation (.mouseMove moved)) => some moved
  | _ => position

/-- The position that the queue took last. -/
def inForce (history : List Observed) : Option MousePosition := history.foldl notePosition none

def Item.ActsAtMouse : Item → Prop
  | .operation (.mouseButtonPressed _) => True
  | .operation (.mouseButtonReleased _) => True
  | .operation (.wheelRotations _) => True
  | _ => False

/-- What may come next: the items in the order of their requests, and of the moves only the
latest one that was requested since the last resize. -/
def Allowed (past : List Observed) : Observed → Prop
  | .requested _ => others past = due past
  | .enqueued item =>
    if item.isMove then ∃ position, item = .operation (.mouseMove position) ∧
      latestMove past = some position
    else others past ++ [item] <+: due past ∧
      (item.ActsAtMouse → latestMove past = none ∨ inForce past = latestMove past)

inductive Delivered (Event : Type) where
  | resize (width height : UInt16) (scaleFactor : UInt32)
  | input (event : Event)

def delivered {Event : Type} : RdpInputEvent Event → List (Delivered Event)
  | .resize width height scaleFactor => [.resize width height scaleFactor]
  | .fastPath events => events.map .input

section Fold

variable {Database Event : Type} (apply : Database → Operation → Database × List Event)

def enqueue (folded : Database × List (Delivered Event)) :
    Item → Database × List (Delivered Event)
  | .resize width height scaleFactor => (folded.1, folded.2 ++ [.resize width height scaleFactor])
  | .operation operation =>
    let applied := apply folded.1 operation
    (applied.1, folded.2 ++ applied.2.map .input)

def replay (database : Database) (items : List Item) : Database × List (Delivered Event) :=
  items.foldl (enqueue apply) (database, [])

def Builds (items : List Item)
    (buildEvent : Database → Database × Option (RdpInputEvent Event)) : Prop :=
  ∀ folded, items.foldl (enqueue apply) folded =
    ((buildEvent folded.1).1, folded.2 ++ (buildEvent folded.1).2.toList.flatMap delivered)

variable {apply}

theorem fastPathEvent_delivered (events : List Event) :
    (fastPathEvent events).toList.flatMap delivered = events.map .input := by
  cases events with
  | nil => rfl
  | cons event rest => simp [fastPathEvent, delivered]

theorem operations_build (operations : List Operation) :
    Builds apply (operations.map .operation) (operationsEvent apply operations) := by
  intro folded
  simp only [operationsEvent, fastPathEvent_delivered]
  induction operations generalizing folded with
  | nil => simp [applyAll]
  | cons operation rest ih => simp [ih, enqueue, applyAll]

theorem resize_builds (width height : UInt16) (scaleFactor : UInt32) :
    Builds apply [.resize width height scaleFactor]
      (fun database => (database, some (.resize width height scaleFactor))) := by
  intro folded
  rfl

end Fold

/-! ## One more event -/

section Snoc

variable {history : List Observed} {item : Item} {request : HelperRequest}

@[simp] theorem enqueuedItems_enqueued (items : List Item) :
    enqueuedItems (history ++ items.map .enqueued) = enqueuedItems history ++ items := by
  induction items generalizing history with
  | nil => simp
  | cons item rest ih =>
    rw [List.map_cons, List.append_cons, ih]
    simp [enqueuedItems, Observed.item]

@[simp] theorem enqueuedItems_requested :
    enqueuedItems (history ++ [.requested request]) = enqueuedItems history := by
  simp [enqueuedItems, Observed.item]

@[simp] theorem requestsRead_enqueued (items : List Item) :
    requestsRead (history ++ items.map .enqueued) = requestsRead history := by
  induction items generalizing history with
  | nil => simp
  | cons item rest ih =>
    rw [List.map_cons, List.append_cons, ih]
    simp [requestsRead, Observed.request]

@[simp] theorem requestsRead_requested :
    requestsRead (history ++ [.requested request]) = requestsRead history ++ [request] := by
  simp [requestsRead, Observed.request]

@[simp] theorem others_enqueued (items : List Item) : others (history ++ items.map .enqueued) =
      others history ++ items.filter fun item => !item.isMove := by
  simp [others]

@[simp] theorem others_requested : others (history ++ [.requested request]) = others history := by
  simp [others]

@[simp] theorem due_enqueued (items : List Item) :
    due (history ++ items.map .enqueued) = due history := by
  simp [due]

@[simp] theorem due_requested :
    due (history ++ [.requested request]) = due history ++ requestedItems request := by
  simp [due]

@[simp] theorem latestMove_enqueued (items : List Item) :
    latestMove (history ++ items.map .enqueued) = latestMove history := by
  induction items generalizing history with
  | nil => simp
  | cons item rest ih =>
    rw [List.map_cons, List.append_cons, ih]
    simp [latestMove, noteMove]

theorem latestMove_requested : latestMove (history ++ [.requested request]) =
      noteMove (latestMove history) (.requested request) := by
  simp [latestMove]

theorem inForce_snoc {observed : Observed} :
    inForce (history ++ [observed]) = notePosition (inForce history) observed := by
  simp [inForce]

theorem inForce_requested : inForce (history ++ [.requested request]) = inForce history :=
  inForce_snoc

theorem inForce_stays (items : List Item) (still : ∀ item ∈ items, item.isMove = false) :
    inForce (history ++ items.map .enqueued) = inForce history := by
  induction items generalizing history with
  | nil => simp
  | cons item rest ih =>
    rw [List.map_cons, List.append_cons,
      ih fun other member => still other (List.mem_cons_of_mem _ member), inForce_snoc]
    have stays := still item List.mem_cons_self
    unfold notePosition
    split
    · rename_i moved same
      cases same
      simp [Item.isMove] at stays
    · rfl

end Snoc

/-! ## Items that are allowed one after the other -/

/-- The queue may take the items. -/
def Grants : List Observed → List Item → Prop
  | _, [] => True
  | past, item :: rest =>
    Allowed past (.enqueued item) ∧ Grants (past ++ [.enqueued item]) rest

theorem Grants.lawful {history : List Observed} {items : List Item} (grants : Grants history items)
    (lawful : Lawful Allowed history) : Lawful Allowed (history ++ items.map .enqueued) := by
  induction items generalizing history with
  | nil => simpa using lawful
  | cons item rest ih =>
    rw [List.map_cons, List.append_cons]
    exact ih grants.2 (lawful.snoc grants.1)

def Owes (history : List Observed) (items : List Item) : Prop :=
  others history ++ items = due history

-- Items that do not depend on the mouse are taken in the order of their requests.
theorem grants_ordered {history : List Observed} {items rest : List Item}
    (owes : Owes history (items ++ rest)) (still : ∀ item ∈ items, item.isMove = false)
    (elsewhere : ∀ item ∈ items, item.ActsAtMouse →
      latestMove history = none ∨ inForce history = latestMove history) : Grants history items := by
  induction items generalizing history with
  | nil => trivial
  | cons item items ih =>
    have stays := still item List.mem_cons_self
    have one := @others_enqueued history [item]
    have same := @due_enqueued history [item]
    have latest := @latestMove_enqueued history [item]
    have force := @inForce_stays history [item] (by simpa using stays)
    simp only [List.map_cons, List.map_nil] at one same latest force
    constructor
    · simp only [Allowed, stays, Bool.false_eq_true, if_false]
      refine ⟨⟨items ++ rest, ?_⟩, elsewhere item List.mem_cons_self⟩
      rw [← owes]
      simp
    · apply ih
      · unfold Owes at owes ⊢
        rw [one, same, ← owes]
        simp [stays]
      · exact fun other member => still other (List.mem_cons_of_mem _ member)
      · rw [latest, force]
        exact fun other member => elsewhere other (List.mem_cons_of_mem _ member)

/-! ## The context -/

section Context

variable {Database Event : Type} {apply : Database → Operation → Database × List Event}
variable {first : Database} {context : RdpInputContext Database Event}

variable (apply first) in
structure Kept (context : RdpInputContext Database Event) : Prop where
  lawful : Lawful Allowed context.history
  ordered : others context.history <+: due context.history
  replayed : replay apply first (enqueuedItems context.history) =
    (context.database, context.sent.flatMap delivered)
  pending : ∀ position, context.pendingMousePosition = some position →
    latestMove context.history = some position
  settled : context.pendingMousePosition = none →
    latestMove context.history = none ∨ inForce context.history = latestMove context.history

theorem kept_new (apply : Database → Operation → Database × List Event) (first : Database)
    (answers : List Reservation) :
    Kept apply first ({ answers, database := first } : RdpInputContext Database Event) where
  lawful := lawful_nil Allowed
  ordered := List.prefix_refl _
  replayed := rfl
  pending _ none := nomatch none
  settled _ := Or.inl rfl

theorem Kept.answered (kept : Kept apply first context) (answers : List Reservation) :
    Kept apply first { context with answers } :=
  ⟨kept.lawful, kept.ordered, kept.replayed, kept.pending, kept.settled⟩

theorem Kept.settle (kept : Kept apply first context)
    (settled : latestMove context.history = none ∨
      inForce context.history = latestMove context.history) :
    Kept apply first { context with pendingMousePosition := none } :=
  ⟨kept.lawful, kept.ordered, kept.replayed, fun _ none => (nomatch none), fun _ => settled⟩

-- A place that is taken for items that are allowed.
theorem Kept.take (kept : Kept apply first context) {items rest : List Item}
    {buildEvent : Database → Database × Option (RdpInputEvent Event)}
    (builds : Builds apply items buildEvent) (grants : Grants context.history items)
    (owes : Owes context.history ((items.filter fun item => !item.isMove) ++ rest))
    (settled : context.pendingMousePosition = none → latestMove context.history = none ∨
      inForce (context.history ++ items.map .enqueued) = latestMove context.history) :
    Kept apply first (context.take items buildEvent) := by
  have replayed := kept.replayed
  constructor
  · exact grants.lawful kept.lawful
  · simp only [RdpInputContext.take, others_enqueued, due_enqueued]
    exact ⟨rest, by rw [List.append_assoc]; exact owes⟩
  · unfold replay at replayed ⊢
    simp only [RdpInputContext.take, enqueuedItems_enqueued, List.foldl_append, replayed]
    rw [builds]
    simp
  · simp only [RdpInputContext.take, latestMove_enqueued]
    exact kept.pending
  · simp only [RdpInputContext.take, latestMove_enqueued]
    exact settled

def permits (answers : List Reservation) : Nat := answers.count .permit

-- How `send_reliably` ends: with the one place taken, or with no place.
theorem sendReliably_cases (items : List Item)
    (buildEvent : Database → Database × Option (RdpInputEvent Event))
    (answers : List Reservation) (context : RdpInputContext Database Event) :
    ∃ rest, rest <:+ answers ∧
      ((sendReliably items buildEvent answers context =
          (.done (), { context with answers := rest }.take items buildEvent) ∧
        permits answers = permits rest + 1) ∨
      (sendReliably items buildEvent answers context =
          (.failed "RDP input channel closed", { context with answers := rest }) ∧
        .closed ∈ answers) ∨
      (sendReliably items buildEvent answers context =
          (.waiting, { context with answers := rest }) ∧ permits answers = 0)) := by
  induction answers generalizing context with
  | nil => exact ⟨[], List.suffix_refl _, Or.inr (Or.inr ⟨rfl, rfl⟩)⟩
  | cons answer rest ih =>
    cases answer with
    | permit =>
      exact ⟨rest, List.suffix_cons _ _, Or.inl ⟨rfl, List.count_cons_self⟩⟩
    | closed =>
      exact ⟨rest, List.suffix_cons _ _, Or.inr (Or.inl ⟨rfl, List.mem_cons_self⟩)⟩
    | full =>
      have fewer : permits (.full :: rest) = permits rest := List.count_cons_of_ne (by decide)
      obtain ⟨left, shorter, cases⟩ := ih { context with answers := rest }
      refine ⟨left, shorter.trans (List.suffix_cons _ _), ?_⟩
      rw [fewer]
      obtain taken | ⟨same, closed⟩ | none := cases
      · exact Or.inl taken
      · exact Or.inr (Or.inl ⟨same, List.mem_cons_of_mem _ closed⟩)
      · exact Or.inr (Or.inr none)

variable (apply first) in
/-- What a call leaves, that needs at most so many places: when it is done, these items are still
owed. It fails when the queue is closed or what it got is not valid. -/
structure Leads {Value : Type} (before : RdpInputContext Database Event) (places : Nat)
    (rest : List Item) (valid : Prop)
    (called : Progress Value × RdpInputContext Database Event) : Prop where
  kept : Kept apply first called.2
  shorter : called.2.answers <:+ before.answers
  done : ∀ value, called.1 = .done value →
    Owes called.2.history rest ∧ permits before.answers ≤ permits called.2.answers + places
  failed : ∀ message, called.1 = .failed message → .closed ∈ before.answers ∨ ¬valid
  waiting : called.1 = .waiting → permits before.answers < places
  read : requestsRead called.2.history = requestsRead before.history

section Leads

variable {places more : Nat} {rest later : List Item} {valid : Prop} {Value : Type}
variable {between : RdpInputContext Database Event}
variable {called : Progress Value × RdpInputContext Database Event}

theorem Leads.trans {Between : Type} {value : Between}
    (here : Leads apply first context places later valid (.done value, between))
    (next : Leads apply first between more rest valid called) :
    Leads apply first context (places + more) rest valid called where
  kept := next.kept
  shorter := next.shorter.trans here.shorter
  done value isDone := by
    obtain ⟨_, count⟩ := here.done _ rfl
    obtain ⟨owes, counted⟩ := next.done value isDone
    exact ⟨owes, by simp only at count; omega⟩
  failed message isFailed := by
    rcases next.failed message isFailed with closed | invalid
    · exact Or.inl (here.shorter.mem closed)
    · exact Or.inr invalid
  waiting isWaiting := by
    obtain ⟨_, count⟩ := here.done _ rfl
    have short := next.waiting isWaiting
    simp only at count
    omega
  read := next.read.trans here.read

-- What does not come to an end leaves the same whatever was to follow.
theorem Leads.fail {message : String} {Between : Type}
    (here : Leads apply first context places later valid
      ((.failed message, between) : Progress Between × RdpInputContext Database Event))
    (more : Nat) : Leads apply first context (places + more) rest valid
      ((.failed message, between) : Progress Value × RdpInputContext Database Event) where
  kept := here.kept
  shorter := here.shorter
  done _ isDone := nomatch isDone
  failed _ _ := here.failed message rfl
  waiting isWaiting := nomatch isWaiting
  read := here.read

theorem Leads.wait {Between : Type} (here : Leads apply first context places later valid
      ((.waiting, between) : Progress Between × RdpInputContext Database Event)) (more : Nat) :
    Leads apply first context (places + more) rest valid
      ((.waiting, between) : Progress Value × RdpInputContext Database Event) where
  kept := here.kept
  shorter := here.shorter
  done _ isDone := nomatch isDone
  failed _ isFailed := nomatch isFailed
  waiting _ := Nat.lt_of_lt_of_le (here.waiting rfl) (Nat.le_add_right _ _)
  read := here.read

theorem Leads.continues {called : Progress Unit × RdpInputContext Database Event}
    (leads : Leads apply first context places rest valid called) :
    Leads apply first context places rest valid (continues called) := by
  obtain ⟨progress, after⟩ := called
  cases progress with
  | done => exact ⟨leads.kept, leads.shorter, fun _ _ => leads.done () rfl,
      fun _ isFailed => (nomatch isFailed), fun isWaiting => (nomatch isWaiting), leads.read⟩
  | failed message => exact leads.fail 0
  | waiting => exact leads.wait 0

theorem Leads.unpended {pending : Option MousePosition}
    (leads : Leads apply first { context with pendingMousePosition := pending } places rest valid
      called) : Leads apply first context places rest valid called :=
  ⟨leads.kept, leads.shorter, leads.done, leads.failed, leads.waiting, leads.read⟩

theorem Kept.stay (kept : Kept apply first context) (owes : Owes context.history rest)
    (value : Value) : Leads apply first context 0 rest valid (.done value, context) where
  kept := kept
  shorter := List.suffix_refl _
  done _ _ := ⟨owes, Nat.le_refl _⟩
  failed _ isFailed := nomatch isFailed
  waiting isWaiting := nomatch isWaiting
  read := rfl

theorem Kept.refuse (kept : Kept apply first context) (invalid : ¬valid) (message : String) :
    Leads apply first context places rest valid
      ((.failed message, context) : Progress Value × RdpInputContext Database Event) where
  kept := kept
  shorter := List.suffix_refl _
  done _ isDone := nomatch isDone
  failed _ _ := Or.inr invalid
  waiting isWaiting := nomatch isWaiting
  read := rfl

end Leads

-- What is sent until the queue takes it.
theorem Kept.send (kept : Kept apply first context) {items rest : List Item} {valid : Prop}
    {buildEvent : Database → Database × Option (RdpInputEvent Event)}
    (builds : Builds apply items buildEvent) (grants : Grants context.history items)
    (owes : Owes context.history ((items.filter fun item => !item.isMove) ++ rest))
    (settled : context.pendingMousePosition = none → latestMove context.history = none ∨
      inForce (context.history ++ items.map .enqueued) = latestMove context.history) :
    Leads apply first context 1 rest valid
      (sendReliably items buildEvent context.answers context) := by
  obtain ⟨left, shorter, ⟨same, count⟩ | ⟨same, closed⟩ | ⟨same, none⟩⟩ :=
    sendReliably_cases items buildEvent context.answers context
  · rw [same]
    refine ⟨(kept.answered left).take builds grants owes settled, shorter, ?_,
      fun _ isFailed => (nomatch isFailed), fun isWaiting => (nomatch isWaiting), ?_⟩
    · intro _ _
      refine ⟨?_, Nat.le_of_eq count⟩
      unfold Owes at owes ⊢
      simp only [RdpInputContext.take, others_enqueued, due_enqueued, List.append_assoc]
      exact owes
    · simp only [RdpInputContext.take, requestsRead_enqueued]
  · rw [same]
    exact ⟨kept.answered left, shorter, fun _ isDone => (nomatch isDone),
      fun _ _ => Or.inl closed, fun isWaiting => (nomatch isWaiting), rfl⟩
  · rw [same]
    exact ⟨kept.answered left, shorter, fun _ isDone => (nomatch isDone),
      fun _ isFailed => (nomatch isFailed), fun _ => by omega, rfl⟩

-- Items that are no moves; those that act at the mouse find its position settled.
theorem Kept.sendOrdered (kept : Kept apply first context) {items rest : List Item} {valid : Prop}
    {buildEvent : Database → Database × Option (RdpInputEvent Event)}
    (builds : Builds apply items buildEvent) (owes : Owes context.history (items ++ rest))
    (still : ∀ item ∈ items, item.isMove = false)
    (calm : ∀ item ∈ items, item.ActsAtMouse → context.pendingMousePosition = none) :
    Leads apply first context 1 rest valid
      (sendReliably items buildEvent context.answers context) := by
  have all : (items.filter fun item => !item.isMove) = items := by
    apply List.filter_eq_self.mpr
    intro item member
    simp [still item member]
  apply kept.send builds
  · exact grants_ordered owes still fun item member acts => kept.settled (calm item member acts)
  · rwa [all]
  · intro none
    rw [inForce_stays items still]
    exact kept.settled none

/-! ## The calls -/

theorem Kept.sendOperations (kept : Kept apply first context) {operations : List Operation}
    {rest : List Item} {valid : Prop}
    (owes : Owes context.history (operations.map .operation ++ rest))
    (still : ∀ item ∈ operations.map Item.operation, item.isMove = false)
    (calm : ∀ item ∈ operations.map Item.operation, item.ActsAtMouse →
      context.pendingMousePosition = none) :
    Leads apply first context 1 rest valid (sendOperations apply context operations) :=
  kept.sendOrdered (operations_build operations) owes still calm

theorem sendMouseMove_leads (kept : Kept apply first context) {position : MousePosition}
    {rest : List Item} {valid : Prop} (owes : Owes context.history rest)
    (latest : latestMove context.history = some position) :
    Leads apply first context 1 rest valid (sendMouseMove apply context position) := by
  have waits : Kept apply first { context with pendingMousePosition := some position } :=
    ⟨kept.lawful, kept.ordered, kept.replayed, fun _ same => by rwa [← same],
      fun none => nomatch none⟩
  unfold sendMouseMove trySendOperations trySendWith
  cases given : context.answers with
  | nil =>
    refine ⟨waits.answered [], List.nil_suffix, fun _ isDone => (nomatch isDone),
      fun _ isFailed => (nomatch isFailed), fun _ => ?_, rfl⟩
    rw [given]
    exact Nat.zero_lt_one
  | cons answer answers =>
    have shorter : answers <:+ context.answers := by
      rw [given]
      exact List.suffix_cons _ _
    cases answer with
    | full =>
      refine ⟨waits.answered answers, shorter, fun _ _ => ⟨owes, ?_⟩,
        fun _ isFailed => (nomatch isFailed), fun isWaiting => (nomatch isWaiting), rfl⟩
      rw [given, permits, List.count_cons_of_ne (by decide)]
      exact Nat.le_succ _
    | closed =>
      refine ⟨waits.answered answers, shorter, fun _ isDone => (nomatch isDone),
        fun _ _ => Or.inl ?_, fun isWaiting => (nomatch isWaiting), rfl⟩
      rw [given]
      exact List.mem_cons_self
    | permit =>
      -- The queue takes the move, so its position is settled.
      have forced : inForce (context.history ++ [.enqueued (.operation (.mouseMove position))])
          = latestMove context.history := by
        rw [inForce_snoc, latest]
        rfl
      have taken := (waits.answered answers).take (operations_build [.mouseMove position])
        ⟨⟨position, rfl, latest⟩, trivial⟩ (show Owes context.history ([] ++ rest) from owes)
        (fun none => nomatch none)
      refine ⟨taken.settle (Or.inr ?_), shorter, fun _ _ => ⟨?_, ?_⟩,
        fun _ isFailed => (nomatch isFailed), fun isWaiting => (nomatch isWaiting), ?_⟩
      · simp only [RdpInputContext.take, latestMove_enqueued]
        exact forced
      · unfold Owes at owes ⊢
        simp only [RdpInputContext.take, others_enqueued, due_enqueued]
        simpa using owes
      · rw [given, permits, List.count_cons_self]
        exact Nat.le_refl _
      · simp only [RdpInputContext.take, requestsRead_enqueued]

theorem sendPointerOperation_leads (kept : Kept apply first context) {operation : Operation}
    {rest : List Item} {valid : Prop} (still : (Item.operation operation).isMove = false)
    (owes : Owes context.history (.operation operation :: rest)) :
    Leads apply first context 1 rest valid (sendPointerOperation apply context operation) := by
  unfold sendPointerOperation
  cases pending : context.pendingMousePosition with
  | none =>
    apply kept.sendOperations owes
    · simpa using still
    · intros
      exact pending
  | some position =>
    have latest := kept.pending position pending
    have forced (items : List Item) (stays : ∀ item ∈ items, item.isMove = false) :
        inForce (context.history ++
          (.operation (.mouseMove position) :: items).map .enqueued) =
            latestMove context.history := by
      rw [List.map_cons, List.append_cons, inForce_stays items stays, inForce_snoc, latest]
      rfl
    have latestToo := @latestMove_enqueued context.history [.operation (.mouseMove position)]
    have owesToo : Owes (context.history ++ [.enqueued (.operation (.mouseMove position))])
        ([.operation operation] ++ rest) := by
      unfold Owes at owes ⊢
      have one := @others_enqueued context.history [.operation (.mouseMove position)]
      have same := @due_enqueued context.history [.operation (.mouseMove position)]
      simp only [List.map_cons, List.map_nil] at one same
      rw [one, same]
      simpa using owes
    have grants : Grants context.history
        [.operation (.mouseMove position), .operation operation] := by
      refine ⟨⟨position, rfl, latest⟩, ?_⟩
      apply grants_ordered owesToo
      · simpa using still
      · intro _ _ _
        exact Or.inr ((forced [] (by simp)).trans latestToo.symm)
    have leads : Leads apply first context 1 rest valid
        (sendOperations apply context [.mouseMove position, operation]) := by
      apply kept.send (operations_build [.mouseMove position, operation]) grants
      · simpa [still] using owes
      · intro none
        rw [pending] at none
        cases none
    simp only [sendOperations] at leads ⊢
    obtain ⟨left, _, ⟨same, _⟩ | ⟨same, _⟩ | ⟨same, _⟩⟩ :=
      sendReliably_cases ([.mouseMove position, operation].map .operation)
        (operationsEvent apply [.mouseMove position, operation]) context.answers context
    · rw [same] at leads ⊢
      refine ⟨leads.kept.settle (Or.inr ?_), leads.shorter, leads.done, leads.failed,
        leads.waiting, leads.read⟩
      simp only [RdpInputContext.take, latestMove_enqueued]
      exact forced [.operation operation] (by simpa using still)
    · rw [same] at leads ⊢
      exact leads
    · rw [same] at leads ⊢
      exact leads

theorem sendText_leads (characters : List Char) (kept : Kept apply first context)
    {rest : List Item} {valid : Prop}
    (owes : Owes context.history (requestedCharacters characters ++ rest)) :
    Leads apply first context characters.length rest valid (sendText apply characters context) := by
  induction characters generalizing context with
  | nil => exact kept.stay owes ()
  | cons character characters ih =>
    have here : Leads apply first context 1 (requestedCharacters characters ++ rest) valid
        (sendOperations apply context
          [.unicodeKeyPressed character, .unicodeKeyReleased character]) := by
      apply kept.sendOperations
      · simpa [requestedCharacters] using owes
      · simp [Item.isMove]
      · simp [Item.ActsAtMouse]
    unfold sendText
    rw [List.length_cons, Nat.add_comm]
    generalize sendOperations apply context _ = called at here ⊢
    obtain ⟨progress, after⟩ := called
    cases progress with
    | done => exact here.trans (ih here.kept (here.done () rfl).1)
    | failed message => exact here.fail _
    | waiting => exact here.wait _

/-- What the loop takes and a session goes on with. -/
def Ordinary : HelperRequest → Prop
  | .resize _ _ _ => True
  | .mouseMove _ _ => True
  | .mouseButton _ _ => True
  | .wheel _ _ => True
  | .key code _ _ => code.toNat < 256
  | .text _ => True
  | _ => False

/-- How many places a request may take. -/
def places : HelperRequest → Nat
  | .resize _ _ _ => 1
  | .mouseMove _ _ => 1
  | .mouseButton _ _ => 1
  | .wheel _ _ => 1
  | .key _ _ _ => 1
  | .text text => text.toList.length
  | _ => 0

def RdpInputContext.request (context : RdpInputContext Database Event) (request : HelperRequest) :
    RdpInputContext Database Event :=
  { context with history := context.history ++ [.requested request] }

theorem Kept.request (kept : Kept apply first context) (owes : Owes context.history [])
    (request : HelperRequest) (pending : Option MousePosition)
    (latest : ∀ position, pending = some position →
      noteMove (latestMove context.history) (.requested request) = some position)
    (settled : pending = none →
      noteMove (latestMove context.history) (.requested request) = none ∨
        inForce context.history = noteMove (latestMove context.history) (.requested request)) :
    Kept apply first { context.request request with pendingMousePosition := pending } := by
  have caught : others context.history = due context.history := by simpa [Owes] using owes
  constructor
  · exact kept.lawful.snoc caught
  · simp only [RdpInputContext.request, others_requested, due_requested]
    rw [caught]
    exact List.prefix_append _ _
  · simp only [RdpInputContext.request, enqueuedItems_requested]
    exact kept.replayed
  · simp only [RdpInputContext.request, latestMove_requested]
    exact latest
  · simp only [RdpInputContext.request, latestMove_requested, inForce_requested]
    exact settled

theorem Kept.plain (kept : Kept apply first context) (owes : Owes context.history [])
    (request : HelperRequest) (same : ∀ latest, noteMove latest (.requested request) = latest) :
    Kept apply first (context.request request) := by
  apply kept.request owes request context.pendingMousePosition
  · rw [same]
    exact kept.pending
  · rw [same]
    exact kept.settled

theorem owes_request (owes : Owes context.history []) (request : HelperRequest) :
    Owes (context.request request).history (requestedItems request) := by
  unfold Owes at owes ⊢
  simp only [RdpInputContext.request, others_requested, due_requested]
  rw [← owes, List.append_nil]

theorem isMove_mouseButton (button : HelperMouseButton) (pressed : Bool) :
    (Item.operation (mouseButtonOperation button pressed)).isMove = false := by
  cases pressed <;> rfl

theorem keyOperation_cases {code : UInt16} {extended pressed : Bool} :
    (256 ≤ code.toNat ∧ ∃ message, keyOperation code extended pressed = .error message) ∨
      ∃ operation, keyOperation code extended pressed = .ok operation ∧
        (Item.operation operation).isMove = false ∧ ¬(Item.operation operation).ActsAtMouse := by
  unfold keyOperation
  split
  · right
    cases pressed <;> exact ⟨_, rfl, rfl, id⟩
  · left
    exact ⟨by omega, _, rfl⟩

theorem applyInputRequest_leads (setLocalText : String → Except String Unit)
    (kept : Kept apply first context) (owes : Owes context.history []) (request : HelperRequest) :
    Leads apply first (context.request request) (places request) [] (Ordinary request)
      (applyInputRequest apply context setLocalText request) := by
  have owed := owes_request owes request
  cases request with
  | resize width height scaleFactor =>
    have fresh := kept.request owes (.resize width height scaleFactor) none
      (fun _ none => nomatch none) (fun _ => Or.inl rfl)
    apply Leads.continues
    apply Leads.unpended
    exact fresh.sendOrdered (resize_builds width height scaleFactor) owed
      (by simp [Item.isMove]) (by simp [Item.ActsAtMouse])
  | mouseMove x y =>
    have fresh := kept.request owes (.mouseMove x y) (some ⟨x, y⟩)
      (fun _ same => same) (fun none => nomatch none)
    apply Leads.continues
    apply Leads.unpended
    exact sendMouseMove_leads fresh owed latestMove_requested
  | mouseButton button pressed =>
    apply Leads.continues
    exact sendPointerOperation_leads (kept.plain owes _ fun _ => rfl)
      (isMove_mouseButton button pressed) owed
  | wheel vertical units =>
    apply Leads.continues
    exact sendPointerOperation_leads (kept.plain owes _ fun _ => rfl) rfl owed
  | key code extended pressed =>
    have fresh := kept.plain owes (.key code extended pressed) fun _ => rfl
    simp only [applyInputRequest]
    rcases @keyOperation_cases code extended pressed with
      ⟨large, message, refused⟩ | ⟨operation, accepted, still, elsewhere⟩
    · rw [refused]
      have invalid : ¬Ordinary (.key code extended pressed) := Nat.not_lt.mpr large
      exact fresh.refuse invalid message
    · simp only [requestedItems, accepted] at owed ⊢
      apply Leads.continues
      apply fresh.sendOperations owed
      · simpa using still
      · intro item member acts
        cases List.mem_singleton.mp member
        exact absurd acts elsewhere
  | text text =>
    have fresh := kept.plain owes (.text text) fun _ => rfl
    apply Leads.continues
    exact sendText_leads text.toList fresh (by rw [List.append_nil]; exact owed)
  | clipboardText text =>
    have fresh := kept.plain owes (.clipboardText text) fun _ => rfl
    simp only [applyInputRequest]
    split
    · exact fresh.stay owed _
    · exact fresh.refuse id _
  | clipboardFiles transferId paths =>
    exact (kept.plain owes (.clipboardFiles transferId paths) fun _ => rfl).stay owed _
  | cancelClipboardTransfer transferId =>
    exact (kept.plain owes (.cancelClipboardTransfer transferId) fun _ => rfl).stay owed _
  | close => exact (kept.plain owes .close fun _ => rfl).stay owed _
  | connect => exact (kept.plain owes .connect fun _ => rfl).refuse id _

theorem applyInputRequest_continues {setLocalText : String → Except String Unit}
    {request : HelperRequest} {action : RdpInputAction} (ordinary : Ordinary request)
    (done : (applyInputRequest apply context setLocalText request).1 = .done action) :
    action = .continue := by
  have goesOn (called : Progress Unit × RdpInputContext Database Event)
      (isDone : (continues called).1 = .done action) : action = .continue := by
    obtain ⟨progress, after⟩ := called
    cases progress <;> cases isDone
    rfl
  cases request with
  | resize width height scaleFactor => exact goesOn _ done
  | mouseMove x y => exact goesOn _ done
  | mouseButton button pressed => exact goesOn _ done
  | wheel vertical units => exact goesOn _ done
  | text text => exact goesOn _ done
  | key code extended pressed =>
    simp only [applyInputRequest] at done
    split at done
    · exact goesOn _ done
    · cases done
  | _ => cases ordinary

/-! ## The loop -/

theorem processInputRequests_kept (setLocalText : String → Except String Unit)
    (lines : List (Except String HelperRequest)) (kept : Kept apply first context)
    (owes : Owes context.history []) :
    Kept apply first (processInputRequests apply setLocalText lines context).2 ∧
      ((processInputRequests apply setLocalText lines context).1 = .done () →
        Owes (processInputRequests apply setLocalText lines context).2.history []) := by
  induction lines generalizing context with
  | nil => exact ⟨kept, fun _ => owes⟩
  | cons line rest ih =>
    cases line with
    | error message => exact ⟨kept, fun isDone => nomatch isDone⟩
    | ok request =>
      have leads := applyInputRequest_leads setLocalText kept owes request
      simp only [processInputRequests]
      generalize applyInputRequest apply context setLocalText request = called at leads ⊢
      obtain ⟨progress, after⟩ := called
      cases progress with
      | done action =>
        have caught := (leads.done action rfl).1
        cases action with
        | «continue» => exact ih leads.kept caught
        | close => exact ⟨leads.kept, fun _ => caught⟩
      | failed message | waiting => exact ⟨leads.kept, fun isDone => nomatch isDone⟩

-- With places enough, every request is read and everything it is for is enqueued.
theorem processInputRequests_done (setLocalText : String → Except String Unit)
    (requests : List HelperRequest) (kept : Kept apply first context)
    (owes : Owes context.history []) (ordinary : ∀ request ∈ requests, Ordinary request)
    (opened : .closed ∉ context.answers)
    (enough : (requests.map places).sum ≤ permits context.answers) :
    (processInputRequests apply setLocalText (requests.map .ok) context).1 = .done () ∧
      requestsRead (processInputRequests apply setLocalText (requests.map .ok) context).2.history =
        requestsRead context.history ++ requests := by
  induction requests generalizing context with
  | nil => exact ⟨rfl, (List.append_nil _).symm⟩
  | cons request rest ih =>
    have leads := applyInputRequest_leads setLocalText kept owes request
    have valid := ordinary request List.mem_cons_self
    have action := @applyInputRequest_continues _ _ apply context setLocalText request
    simp only [List.map_cons, List.sum_cons] at enough
    simp only [List.map_cons, processInputRequests]
    generalize applyInputRequest apply context setLocalText request = called at leads action ⊢
    obtain ⟨progress, after⟩ := called
    cases progress with
    | done value =>
      obtain rfl := action valid rfl
      obtain ⟨caught, count⟩ := leads.done _ rfl
      have read := leads.read
      simp only [RdpInputContext.request, requestsRead_requested] at read count
      obtain ⟨finished, all⟩ := ih leads.kept caught
        (fun other member => ordinary other (List.mem_cons_of_mem _ member))
        (fun closed => opened (leads.shorter.mem closed)) (by simp only; omega)
      refine ⟨finished, ?_⟩
      rw [all, read, List.append_assoc, List.singleton_append]
    | failed message =>
      rcases leads.failed message rfl with closed | invalid
      · exact absurd closed opened
      · exact absurd valid invalid
    | waiting =>
      have short := leads.waiting rfl
      simp only [RdpInputContext.request] at short
      omega

end Context

/-- For every pattern of answers: nothing that is not a move is lost, repeated or out of order,
a button or the wheel acts at the latest position, and the database is that of what was enqueued. -/
theorem input_survives_backpressure {Database Event : Type}
    (apply : Database → Operation → Database × List Event)
    (setLocalText : String → Except String Unit) (database : Database)
    (answers : List Reservation) (lines : List (Except String HelperRequest)) :
    let run := processInputRequests apply setLocalText lines { answers, database }
    let history := run.2.history
    Lawful Allowed history ∧ others history <+: due history ∧
      replay apply database (enqueuedItems history) =
        (run.2.database, run.2.sent.flatMap delivered) ∧
      (run.1 = .done () → others history = due history) ∧
      ∀ requests, lines = requests.map .ok → (∀ request ∈ requests, Ordinary request) →
        .closed ∉ answers → (requests.map places).sum ≤ permits answers →
          run.1 = .done () ∧ requestsRead history = requests ∧
            others history = requests.flatMap requestedItems := by
  intro run history
  have fresh := kept_new apply database answers
  obtain ⟨kept, caught⟩ := processInputRequests_kept setLocalText lines fresh rfl
  have whole (done : run.1 = .done ()) : others history = due history := by
    simpa [Owes] using caught done
  refine ⟨kept.lawful, kept.ordered, kept.replayed, whole, ?_⟩
  rintro requests rfl ordinary opened enough
  obtain ⟨done, read⟩ := processInputRequests_done setLocalText requests fresh rfl ordinary opened
    enough
  refine ⟨done, read, ?_⟩
  rw [whole done, due, read]
  rfl

/-- A database that is the list of what was applied. -/
def logged (log : List Operation) (operation : Operation) : List Operation × List Operation :=
  (log ++ [operation], [operation])

/-- Two moves meet a full queue; the later one goes with the button. -/
theorem coalesced_move_survives :
    others (processInputRequests logged (fun _ => .ok ())
      [.ok (.mouseMove 640 480), .ok (.mouseMove 700 500), .ok (.mouseButton .left true)]
      { answers := [.full, .full, .full, .permit, .permit, .permit], database := [] }).2.history =
      [.operation (.mouseButtonPressed .left)] := by
  have run := input_survives_backpressure logged (fun _ => .ok ()) []
    [.full, .full, .full, .permit, .permit, .permit]
    [.ok (.mouseMove 640 480), .ok (.mouseMove 700 500), .ok (.mouseButton .left true)]
  exact (run.2.2.2.2 [.mouseMove 640 480, .mouseMove 700 500, .mouseButton .left true] rfl
    (by simp [Ordinary]) (by decide) (by decide)).2.2

example : (processInputRequests logged (fun _ => .ok ())
    [.ok (.mouseMove 640 480), .ok (.mouseMove 700 500), .ok (.mouseButton .left true)]
    { answers := [.full, .full, .full, .permit], database := [] }).2.database =
      [.mouseMove ⟨700, 500⟩, .mouseButtonPressed .left] := by decide

end Onetcli.Rdp.Input
