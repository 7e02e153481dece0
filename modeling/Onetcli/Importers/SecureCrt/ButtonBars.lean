import Onetcli.Importers.SecureCrt.ButtonRuns

/-!
The records that the machine of xml.rs makes of an export with button bars: for each button
that it reaches and that sends a command, one quick command in the order of the document,
among the records of the sessions.
-/

namespace Onetcli.Importers.SecureCrt

open Chars Nesting Occurrences

/-! ## What is made -/

def isQuick (record : ImportRecord) : Bool := record.quickCommand.isSome

def IsSession (path : Chars) (record : ImportRecord) : Prop :=
  ∃ first rest, record.sourceId = some (path ++ '#' :: first :: rest) ∧ first.toLower = 's'

section Made

variable (path : Chars) (credentials : List (Chars × CredentialMetadata)) (library : XmlLibrary)

/-- What is made is the quick commands of the places, numbered on, among records of
sessions. -/
structure Makes (places : List Place) (before after : XmlState) : Prop where
  count : after.buttonCount = before.buttonCount + places.length
  made : ∃ made, after.records = before.records ++ made ∧
    made.filter isQuick = quickRecords library path before.buttonCount places ∧
      ∀ record ∈ made, isQuick record = false → IsSession path record

variable {path library}

theorem Makes.none {before after : XmlState} (count : after.buttonCount = before.buttonCount)
    (records : after.records = before.records) : Makes path library [] before after :=
  ⟨count, [], by rw [records, List.append_nil], rfl, fun _ member => nomatch member⟩

theorem Makes.trans {first second : List Place} {before between after : XmlState}
    (one : Makes path library first before between)
    (two : Makes path library second between after) :
    Makes path library (first ++ second) before after := by
  obtain ⟨count, made, records, quick, sessions⟩ := one
  obtain ⟨countNext, next, recordsNext, quickNext, sessionsNext⟩ := two
  refine ⟨?_, made ++ next, ?_, ?_, ?_⟩
  · rw [countNext, count, List.length_append, Nat.add_assoc]
  · rw [recordsNext, records, List.append_assoc]
  · rw [List.filter_append, quick, quickNext, count, quickRecords, quickRecords, quickRecords,
      List.zipIdx_append, List.map_append]
  · intro record member other
    rcases List.mem_append.mp member with early | late
    · exact sessions record early other
    · exact sessionsNext record late other

variable (path library)

/-! ## Ends of bars -/

theorem pushButton_makes (state : XmlState) (place : Place) :
    Makes path library ([place].filter (Place.wanted library)) state
      (state.pushButton path place.bar (place.button.frame library).fields []
        place.button.key.name (marked '~' place.button.key.name place.number)) := by
  have command : field (place.button.fields library) "Command".toList = place.command library := rfl
  rw [XmlState.pushButton, (frame_fields library place.button).1, List.nil_append,
    List.nil_append, List.nil_append, List.filter_cons, List.filter_nil, Place.wanted, command]
  change Makes path library _ state (if !place.isSend library then _ else _)
  cases sends : place.isSend library with
  | false => exact Makes.none rfl rfl
  | true =>
    cases sent : place.command library with
    | none => exact Makes.none rfl rfl
    | some command =>
      refine ⟨rfl, [place.record library path state.buttonCount], ?_, rfl, ?_⟩
      · rw [Place.record, sent]
        rfl
      · intro record member other
        rw [List.mem_singleton.mp member] at other
        cases other

theorem pushChildren_makes (bar : Chars) (state : XmlState) (seen : List Chars)
    (buttons : List ButtonKey) : Makes path library
      (((numbered buttonKey seen buttons).map fun entry =>
        (⟨bar, entry.1, entry.2⟩ : Place)).filter (Place.wanted library)) state
      (state.pushChildren path bar seen (buttons.map (ButtonKey.frame library))) := by
  induction buttons generalizing state seen with
  | nil => exact Makes.none rfl rfl
  | cons button rest ih =>
    rw [List.map_cons, XmlState.pushChildren, (frame_fields library button).2, numbered,
      List.map_cons]
    -- The number of a button is told by the keys that were seen before it.
    have first := pushButton_makes path library state
      ⟨bar, button, seen.count (buttonKey button) + 1⟩
    have later := ih (state.pushButton path bar (button.frame library).fields []
      button.key.name (marked '~' button.key.name (seen.count (buttonKey button) + 1)))
      (buttonKey button :: seen)
    have both := first.trans later
    rw [← List.filter_append] at both
    exact both

theorem orderedNames_none {fieldOrder : List Chars}
    (plain : ∀ key ∈ fieldOrder, endsWith key "/name".toList = false) :
    orderedNames fieldOrder "Name".toList = [] := by
  rw [orderedNames]
  induction fieldOrder with
  | nil => rfl
  | cons key rest ih =>
    have suffix : toAsciiLowercase ('/' :: "Name".toList) = "/name".toList := by decide
    have absent : stripSuffix "/name".toList key = none := by
      have other := plain key List.mem_cons_self
      rw [endsWith] at other
      rw [stripSuffix, other]
      rfl
    rw [List.foldl_cons, orderedName, suffix, absent]
    rw [suffix] at ih
    exact ih fun key member => plain key (List.mem_cons_of_mem _ member)

/-! ## Ends of keys -/

theorem sessionsKey_cons {name : Chars} (sessions : isSessionsKey name = true) :
    ∃ first rest, name = first :: rest ∧ first.toLower = 's' := by
  have same : toAsciiLowercase name = "sessions".toList := by
    rw [isSessionsKey, eqIgnoreAsciiCase, beq_iff_eq] at sessions
    exact sessions.trans (by decide)
  cases name with
  | nil => exact absurd same (by decide)
  | cons first rest =>
    rw [toAsciiLowercase, List.map_cons] at same
    have head := congrArg List.head? same
    exact ⟨first, rest, rfl, Option.some.inj head⟩

theorem bars_not_sessions {name : Chars} (isBars : isButtonBarKey name = true) :
    isSessionsKey name = false := by
  by_contra sessions
  rw [Bool.not_eq_false, isSessionsKey, eqIgnoreAsciiCase, beq_iff_eq] at sessions
  rw [isButtonBarKey, eqIgnoreAsciiCase, eqIgnoreAsciiCase, sessions] at isBars
  exact absurd isBars (by decide)

theorem sshRecord_source {sourceId : Chars} {groupPath : Option Chars} {name : Chars}
    {fields : Fields} {port : Option Nat} {record : ImportRecord}
    (made : (sshRecord sourceId groupPath name fields port).1 = some record) :
    record.sourceId = some sourceId ∧ record.quickCommand = none := by
  rw [sshRecord] at made
  split at made
  · cases made
  · split at made
    · cases made
    · rw [← Option.some.inj made]
      exact ⟨rfl, rfl⟩

def namesOf (frame : KeyFrame) (below : List KeyFrame) : List Chars :=
  (below.map KeyFrame.name).reverse ++ [frame.name]

theorem finishSession_makes (state : XmlState) (frame : KeyFrame) {names : List Chars}
    {sessionIndex : Nat} (found : names.findIdx? isSessionsKey = some sessionIndex) :
    Makes path library [] state (state.finishSession path credentials frame names sessionIndex) := by
  obtain ⟨inside, sessions, _⟩ := List.findIdx?_eq_some_iff_getElem.mp found
  obtain ⟨first, rest, named, lower⟩ := sessionsKey_cons sessions
  rw [XmlState.finishSession]
  refine ⟨rfl, _, rfl, ?_, ?_⟩
  · cases made : (sshRecord _ _ frame.name _ _).1 with
    | none => rfl
    | some record =>
      have plain : isQuick record = false := by
        rw [isQuick, (sshRecord_source made).2]
        rfl
      rw [Option.toList_some, List.filter_cons, plain]
      rfl
  · intro record member _
    have source := (sshRecord_source (Option.mem_toList.mp member)).1
    -- The source goes from the key of sessions on, so it starts with that key's letter.
    refine ⟨first, ['/'].intercalate (rest :: names.drop (sessionIndex + 1)), ?_, lower⟩
    rw [source, List.drop_eq_getElem_cons inside, named, List.intercalate_cons_cons_left]

-- Below a key of sessions the end of a key makes a session at most.
variable {state : XmlState}

theorem finishKey_session {frame : KeyFrame} {below : List KeyFrame}
    (shape : state.stack = frame :: below)
    (sessions : ∃ name ∈ namesOf frame below, isSessionsKey name = true) :
    (state.finishKey path credentials).stack = below ∧
      Makes path library [] state (state.finishKey path credentials) := by
  cases found : (namesOf frame below).findIdx? isSessionsKey with
  | none =>
    obtain ⟨name, member, is⟩ := sessions
    rw [List.findIdx?_eq_none_iff.mp found name member] at is
    cases is
  | some sessionIndex =>
    have ended : state.finishKey path credentials =
        if (namesOf frame below).length ≤ sessionIndex + 1 then { state with stack := below }
        else { state with stack := below }.finishSession path credentials frame
          (namesOf frame below) sessionIndex := by
      have index : (namesOf frame below).findIdx?
          (fun name => eqIgnoreAsciiCase name "Sessions".toList) = some sessionIndex := found
      rw [XmlState.finishKey, shape]
      dsimp only
      rw [← namesOf, index]
    rw [ended]
    split
    · exact ⟨rfl, Makes.none rfl rfl⟩
    · have made := finishSession_makes path credentials library { state with stack := below }
        frame found
      exact ⟨rfl, made.count, made.made⟩

theorem finishKey_other {frame : KeyFrame} {below : List KeyFrame}
    (shape : state.stack = frame :: below)
    (others : ∀ name ∈ namesOf frame below, isSessionsKey name = false) :
    state.finishKey path credentials =
      if (buttonBarIndex (namesOf frame below)).any fun barIndex =>
          barIndex + 2 < (namesOf frame below).length then
        { state with stack := addChild frame below }
      else { state with stack := below }.finishButtonBar path frame (namesOf frame below) := by
  have absent : (namesOf frame below).findIdx?
      (fun name => eqIgnoreAsciiCase name "Sessions".toList) = none :=
    List.findIdx?_eq_none_iff.mpr others
  rw [XmlState.finishKey, shape]
  dsimp only
  rw [← namesOf, absent]

/-! ## Runs of bars -/

/-- Where a run ends: the keys that are open, and what was made on the way. -/
structure Arrives (stack : List KeyFrame) (places : List Place) (before after : XmlState) :
    Prop where
  idle : Idle after
  stack : after.stack = stack
  makes : Makes path library places before after

variable {path library} in
theorem Arrives.trans {stack last : List KeyFrame} {first second : List Place}
    {before between after : XmlState} (one : Arrives path library stack first before between)
    (two : Arrives path library last second between after) :
    Arrives path library last (first ++ second) before after :=
  ⟨two.idle, two.stack, one.makes.trans two.makes⟩

structure BarFrame (before : KeyFrame) (buttons : List ButtonKey) (after : KeyFrame) : Prop where
  name : after.name = before.name
  children : after.childButtons =
    before.childButtons ++ (buttons.filter (reaches before.name)).map (ButtonKey.frame library)
  order : ∀ key ∈ after.fieldOrder, key ∈ before.fieldOrder ∨ endsWith key "/name".toList = false

theorem finishKey_idle (idle : Idle state) : Idle (state.finishKey path credentials) := by
  have same := finishKey_same path credentials state
  exact ⟨same.ignoredDepth.trans idle.ignored, same.currentField.trans idle.field⟩

theorem buttonBarIndex_first {bars : Chars} (isBars : isButtonBarKey bars = true)
    (names : List Chars) : buttonBarIndex (bars :: names) = some 0 := by
  rw [buttonBarIndex, List.findIdx?_cons, if_pos isBars]

-- A button is put under its bar, unless its end is that of a session.
theorem run_button_item (idle : Idle state) {frame bars : KeyFrame}
    (shape : state.stack = [frame, bars]) (isBars : isButtonBarKey bars.name = true)
    (button : ButtonKey) : ∃ next, BarFrame library frame [button] next ∧
      Arrives path library [next, bars] [] state
        (runFrom path credentials library state button.events) := by
  have room : state.stack.length < maxXmlDepth := by
    rw [shape]
    simp [maxXmlDepth]
  have idleThen : Idle { state with stack := button.frame library :: state.stack } :=
    ⟨idle.ignored, idle.field⟩
  have ended := finishKey_idle path credentials idleThen
  have names : namesOf (button.frame library) state.stack =
      [bars.name, frame.name, button.key.name] := by
    rw [namesOf, shape, (frame_fields library button).2]
    rfl
  rw [run_button path credentials library idle room]
  by_cases reached : reaches frame.name button = true
  · have others : ∀ name ∈ namesOf (button.frame library) state.stack,
        isSessionsKey name = false := by
      rw [reaches, Bool.and_eq_true, Bool.not_eq_true', Bool.not_eq_true'] at reached
      rw [names]
      intro name member
      simp only [List.mem_cons, List.not_mem_nil, or_false] at member
      rcases member with rfl | rfl | rfl
      · exact bars_not_sessions isBars
      · exact reached.1
      · exact reached.2
    have child := finishKey_other path credentials
      (state.stack_onStack (button.frame library :: state.stack)) others
    rw [names, buttonBarIndex_first isBars] at child
    refine ⟨{ frame with childButtons := frame.childButtons ++ [button.frame library] },
      ⟨rfl, ?_, fun key member => Or.inl member⟩, ended, ?_, ?_⟩
    · rw [List.filter_cons, if_pos reached]
      rfl
    · rw [child, shape]
      rfl
    · rw [child]
      exact Makes.none rfl rfl
  · have sessions : ∃ name ∈ namesOf (button.frame library) state.stack,
        isSessionsKey name = true := by
      rw [names]
      rw [reaches, Bool.and_eq_true, not_and_or, Bool.not_eq_true', Bool.not_eq_true',
        Bool.not_eq_false, Bool.not_eq_false] at reached
      rcases reached with bar | own
      · exact ⟨frame.name, by simp, bar⟩
      · exact ⟨button.key.name, by simp, own⟩
    obtain ⟨stack, makes⟩ := finishKey_session path credentials library
      (state.stack_onStack (button.frame library :: state.stack)) sessions
    refine ⟨frame, ⟨rfl, ?_, fun key member => Or.inl member⟩, ended, stack.trans shape,
      makes.count, makes.made⟩
    rw [List.filter_cons, if_neg reached]
    exact (List.append_nil _).symm

theorem run_bar_item (idle : Idle state) {frame bars : KeyFrame}
    (shape : state.stack = [frame, bars]) (isBars : isButtonBarKey bars.name = true)
    (item : BarItem) : ∃ next, BarFrame library frame item.button?.toList next ∧
      Arrives path library [next, bars] [] state
        (runFrom path credentials library state item.events) := by
  cases item with
  | button button => exact run_button_item path credentials library idle shape isBars button
  | part part plain =>
    have ran := run_part path credentials library idle shape part
    obtain ⟨name, children⟩ := storeTexts_same frame (part.texts library)
    refine ⟨storeTexts frame (part.texts library), ⟨name, ?_, ?_⟩, ?_⟩
    · rw [children]
      exact (List.append_nil _).symm
    · intro key member
      rcases storeTexts_order member with before | ⟨text, among, is⟩
      · exact Or.inl before
      · -- No field of the bar names a button.
        rw [KeyPart.namesButton, texts_name library among, Option.any_some] at plain
        exact Or.inr (is ▸ plain)
    · rw [BarItem.events, ran]
      exact ⟨⟨idle.ignored, idle.field⟩, rfl, Makes.none rfl rfl⟩

theorem run_bar_items (idle : Idle state) {frame bars : KeyFrame}
    (shape : state.stack = [frame, bars]) (isBars : isButtonBarKey bars.name = true)
    (items : List BarItem) : ∃ next, BarFrame library frame (items.filterMap BarItem.button?) next ∧
      Arrives path library [next, bars] [] state
        (runFrom path credentials library state (items.flatMap BarItem.events)) := by
  induction items generalizing state frame with
  | nil =>
    exact ⟨frame, ⟨rfl, (List.append_nil _).symm, fun key member => Or.inl member⟩, idle, shape,
      Makes.none rfl rfl⟩
  | cons item rest ih =>
    obtain ⟨between, one, first⟩ := run_bar_item path credentials library idle shape isBars item
    obtain ⟨next, others, later⟩ := ih first.idle first.stack
    have buttons : (item :: rest).filterMap BarItem.button? =
        item.button?.toList ++ rest.filterMap BarItem.button? := by
      cases found : item.button? with
      | none => exact List.filterMap_cons_none found
      | some button => exact List.filterMap_cons_some found
    refine ⟨next, ⟨others.name.trans one.name, ?_, ?_⟩, ?_⟩
    · rw [others.children, one.children, one.name, buttons, List.filter_append, List.map_append,
        List.append_assoc]
    · intro key member
      rcases others.order key member with before | plain
      · exact one.order key before
      · exact Or.inr plain
    · rw [List.flatMap_cons, runFrom_append]
      exact first.trans later

theorem reached_places {bar : BarKey} (plain : isSessionsKey bar.key.name = false) :
    (((numbered buttonKey [] (bar.buttons.filter (reaches bar.key.name))).map fun entry =>
        (⟨bar.key.name, entry.1, entry.2⟩ : Place)).filter (Place.wanted library)) =
      bar.places.filter fun place => place.reached && place.wanted library := by
  have byKey (button : ButtonKey) : reaches bar.key.name button =
      !(buttonKey button == toAsciiLowercase "Sessions".toList) := by
    rw [reaches, plain]
    rfl
  have kept : bar.buttons.filter (reaches bar.key.name) = bar.buttons.filter fun button =>
      !(buttonKey button == toAsciiLowercase "Sessions".toList) :=
    List.filter_congr fun button _ => byKey button
  rw [kept, numbered_filter (fun key => !(key == toAsciiLowercase "Sessions".toList)) []
      fun _ _ => rfl, BarKey.places, List.filter_map, List.filter_map,
    List.filter_filter]
  congr 1
  apply List.filter_congr
  intro entry _
  rw [Function.comp, Function.comp, Place.reached, byKey, Bool.and_comm]

theorem run_bar (idle : Idle state) {bars : KeyFrame}
    (shape : state.stack = [bars]) (isBars : isButtonBarKey bars.name = true) (bar : BarKey) :
    Arrives path library [bars]
      (bar.places.filter fun place => place.reached && place.wanted library) state
      (runFrom path credentials library state bar.events) := by
  have room : state.stack.length < maxXmlDepth := by
    rw [shape]
    simp [maxXmlDepth]
  obtain ⟨frame, inside, arrived⟩ := run_bar_items path credentials library
    (idle.onStack ({ name := bar.key.name } :: state.stack)) (by rw [shape]) isBars bar.items
  rw [BarKey.events, run_around path credentials library idle room bar.key _ arrived.idle]
  have ended := finishKey_idle path credentials arrived.idle
  have named : frame.name = bar.key.name := inside.name
  have names : namesOf frame [bars] = [bars.name, bar.key.name] := by
    rw [namesOf, named]
    rfl
  have before := arrived.makes
  generalize runFrom path credentials library
    { state with stack := { name := bar.key.name } :: state.stack }
    (bar.items.flatMap BarItem.events) = last at arrived ended before ⊢
  have start : Makes path library [] state last := ⟨before.count, before.made⟩
  by_cases plain : isSessionsKey bar.key.name = false
  · have others : ∀ name ∈ namesOf frame [bars], isSessionsKey name = false := by
      rw [names]
      intro name member
      simp only [List.mem_cons, List.not_mem_nil, or_false] at member
      rcases member with rfl | rfl
      · exact bars_not_sessions isBars
      · exact plain
    have finished := finishKey_other path credentials arrived.stack others
    have ordered : orderedNames frame.fieldOrder "Name".toList = [] := by
      apply orderedNames_none
      intro key member
      rcases inside.order key member with early | late
      · cases early
      · exact late
    have children : frame.childButtons =
        (bar.buttons.filter (reaches bar.key.name)).map (ButtonKey.frame library) :=
      inside.children
    have short : ¬(some 0).any (fun barIndex =>
        decide (barIndex + 2 < [bars.name, bar.key.name].length)) = true := by
      simp
    rw [names, buttonBarIndex_first isBars, if_neg short] at finished
    have closed := finishButtonBar_stack path { last with stack := [bars] } frame
      [bars.name, bar.key.name]
    rw [← finished] at closed
    rw [XmlState.finishButtonBar, buttonBarIndex_first isBars] at finished
    dsimp only at finished
    rw [Nat.zero_add, List.getElem?_cons_succ, List.getElem?_cons_zero, ordered, children]
      at finished
    dsimp only at finished
    rw [List.foldl_nil] at finished
    have pushed := pushChildren_makes path library bar.key.name { last with stack := [bars] } []
      (bar.buttons.filter (reaches bar.key.name))
    rw [← finished, reached_places library plain] at pushed
    exact ⟨ended, closed, start.trans ⟨pushed.count, pushed.made⟩⟩
  · rw [Bool.not_eq_false] at plain
    have sessions : ∃ name ∈ namesOf frame [bars], isSessionsKey name = true := by
      rw [names]
      exact ⟨bar.key.name, by simp, plain⟩
    obtain ⟨stack, makes⟩ := finishKey_session path credentials library arrived.stack sessions
    have none : (bar.places.filter fun place => place.reached && place.wanted library) = [] := by
      rw [List.filter_eq_nil_iff]
      intro place member
      obtain ⟨entry, _, rfl⟩ := List.mem_map.mp member
      rw [Place.reached, reaches, plain]
      exact Bool.false_ne_true
    rw [none]
    exact ⟨ended, stack, start.trans makes⟩

/-! ## Runs of exports -/

def Place.sent (place : Place) : Bool := place.reached && place.wanted library

theorem run_bars_items (idle : Idle state) {bars : KeyFrame}
    (shape : state.stack = [bars]) (isBars : isButtonBarKey bars.name = true)
    (items : List BarsItem) : ∃ next : KeyFrame, next.name = bars.name ∧
      Arrives path library [next] ((items.flatMap BarsItem.places).filter (Place.sent library))
        state (runFrom path credentials library state (items.flatMap BarsItem.events)) := by
  induction items generalizing state bars with
  | nil => exact ⟨bars, rfl, idle, shape, Makes.none rfl rfl⟩
  | cons item rest ih =>
    have one : ∃ next : KeyFrame, next.name = bars.name ∧
        Arrives path library [next] (item.places.filter (Place.sent library)) state
          (runFrom path credentials library state item.events) := by
      cases item with
      | bar bar => exact ⟨bars, rfl, run_bar path credentials library idle shape isBars bar⟩
      | part part =>
        have ran := run_part path credentials library idle shape part
        refine ⟨storeTexts bars (part.texts library), (storeTexts_same _ _).1, ?_⟩
        rw [BarsItem.events, ran]
        exact ⟨⟨idle.ignored, idle.field⟩, rfl, Makes.none rfl rfl⟩
    obtain ⟨between, named, first⟩ := one
    obtain ⟨next, same, later⟩ := ih first.idle first.stack (by rw [named, isBars])
    refine ⟨next, same.trans named, ?_⟩
    rw [List.flatMap_cons, List.flatMap_cons, runFrom_append, List.filter_append]
    exact first.trans later

theorem run_bars (idle : Idle state) (shape : state.stack = [])
    {key : KeyStart} (isBars : isButtonBarKey key.name = true) (items : List BarsItem) :
    Arrives path library [] ((items.flatMap BarsItem.places).filter (Place.sent library)) state
      (runFrom path credentials library state (key.around (items.flatMap BarsItem.events))) := by
  have room : state.stack.length < maxXmlDepth := by
    rw [shape]
    decide
  obtain ⟨next, named, arrived⟩ := run_bars_items path credentials library
    (idle.onStack ({ name := key.name } :: state.stack)) (by rw [shape]) isBars items
  rw [run_around path credentials library idle room key _ arrived.idle]
  have ended := finishKey_idle path credentials arrived.idle
  have isBarsThen : isButtonBarKey next.name = true := by
    rw [named]
    exact isBars
  have names : namesOf next [] = [next.name] := rfl
  have finished := finishKey_other path credentials arrived.stack (by
    rw [names]
    intro name member
    rw [List.mem_singleton.mp member]
    exact bars_not_sessions isBarsThen)
  have short : ¬(some 0).any (fun barIndex => decide (barIndex + 2 < [next.name].length)) =
      true := by
    simp
  rw [names, buttonBarIndex_first isBarsThen, if_neg short, XmlState.finishButtonBar,
    buttonBarIndex_first isBarsThen] at finished
  dsimp only at finished
  rw [Nat.zero_add, List.getElem?_cons_succ, List.getElem?_nil] at finished
  have before := arrived.makes
  refine ⟨ended, by rw [finished], ?_⟩
  rw [finished]
  exact ⟨before.count, before.made⟩

/-! ### Anything else -/

def Barless (state : XmlState) : Prop :=
  ∀ frame ∈ state.stack, isButtonBarKey frame.name = false

theorem insertField_barless (barless : Barless state) (name value : Chars) :
    Barless (state.insertField name value) ∧
      Makes path library [] state (state.insertField name value) := by
  rcases shape : state.stack with _ | ⟨frame, below⟩
  · rw [XmlState.insertField, shape]
    exact ⟨barless, Makes.none rfl rfl⟩
  · rw [XmlState.insertField, shape]
    refine ⟨?_, Makes.none rfl rfl⟩
    rw [Barless, shape] at barless
    intro other member
    rcases List.mem_cons.mp member with rfl | lower
    · exact barless frame List.mem_cons_self
    · exact barless other (List.mem_cons_of_mem _ lower)

theorem finishKey_barless (barless : Barless state) : Barless (state.finishKey path credentials) ∧
      Makes path library [] state (state.finishKey path credentials) := by
  rcases shape : state.stack with _ | ⟨frame, below⟩
  · rw [XmlState.finishKey, shape]
    exact ⟨barless, Makes.none rfl rfl⟩
  · rw [Barless, shape] at barless
    have lower : ∀ other ∈ below, isButtonBarKey other.name = false :=
      fun other member => barless other (List.mem_cons_of_mem _ member)
    by_cases sessions : ∃ name ∈ namesOf frame below, isSessionsKey name = true
    · obtain ⟨stack, makes⟩ := finishKey_session path credentials library shape sessions
      refine ⟨?_, makes⟩
      rw [Barless, stack]
      exact lower
    · have others : ∀ name ∈ namesOf frame below, isSessionsKey name = false := by
        intro name member
        by_contra is
        exact sessions ⟨name, member, Bool.not_eq_false _ ▸ is⟩
      have noBar : buttonBarIndex (namesOf frame below) = none := by
        rw [buttonBarIndex, List.findIdx?_eq_none_iff, namesOf]
        intro name member
        rcases List.mem_append.mp member with above | own
        · rw [List.mem_reverse] at above
          obtain ⟨other, among, rfl⟩ := List.mem_map.mp above
          exact lower other among
        · rw [List.mem_singleton.mp own]
          exact barless frame List.mem_cons_self
      have finished := finishKey_other path credentials shape others
      rw [noBar, Option.any_none, if_neg Bool.false_ne_true, XmlState.finishButtonBar, noBar]
        at finished
      rw [finished]
      exact ⟨lower, Makes.none rfl rfl⟩

theorem step_barless (barless : Barless state) {event : XmlEvent}
    (other : opensBars event = false) : Barless (state.step path credentials library event) ∧
      Makes path library [] state (state.step path credentials library event) := by
  have same : Barless state ∧ Makes path library [] state state :=
    ⟨barless, Makes.none rfl rfl⟩
  cases event with
  | start tag attributes =>
    rw [XmlState.step, XmlState.start]
    split
    · split
      · exact ⟨barless, Makes.none rfl rfl⟩
      · exact same
    · split
      · rename_i named
        rw [XmlState.pushKey]
        split
        · exact ⟨barless, Makes.none rfl rfl⟩
        · refine ⟨?_, Makes.none rfl rfl⟩
          rw [opensBars, (isKey_iff tag).mpr named, Bool.true_and] at other
          intro frame member
          rcases List.mem_cons.mp member with rfl | lower
          · exact other
          · exact barless frame lower
      · split
        · exact ⟨barless, Makes.none rfl rfl⟩
        · exact same
  | empty tag attributes =>
    rw [XmlState.step, XmlState.empty]
    split
    · split
      · exact same
      · exact insertField_barless path library barless _ _
    · exact same
  | text content =>
    rw [XmlState.step, XmlState.text]
    split
    · exact same
    · exact insertField_barless path library barless _ _
  | reference name => exact same
  | finish tag =>
    rw [XmlState.step, XmlState.finish]
    split
    · split
      · exact ⟨barless, Makes.none rfl rfl⟩
      · exact same
    · split
      · exact ⟨barless, Makes.none rfl rfl⟩
      · split
        · exact finishKey_barless path credentials library barless
        · exact same
  | other => exact same

theorem run_barless (barless : Barless state) {events : List XmlEvent}
    (others : ∀ event ∈ events, opensBars event = false) :
    Makes path library [] state (runFrom path credentials library state events) := by
  induction events generalizing state with
  | nil => exact Makes.none rfl rfl
  | cons event rest ih =>
    obtain ⟨next, first⟩ := step_barless path credentials library barless
      (others event List.mem_cons_self)
    exact first.trans (ih next fun later member => others later (List.mem_cons_of_mem _ member))

mutual

theorem InStep.node {depth : Nat} {reading : Bool} {state : XmlState}
    (inStep : InStep depth reading state) : (node : XmlNode) → ∃ after, InStep depth after
      (runFrom path credentials library state (node.events xmlReading)) ∧
        (reading = false → after = false)
  | .leaf leaf => by
    have step := inStep.step path credentials library leaf.event
    cases leaf with
    | empty tag attributes => exact ⟨_, step, id⟩
    | text content => exact ⟨_, step, id⟩
    | reference name => exact ⟨_, step, id⟩
    | other => exact ⟨_, step, id⟩
  | .element tag children => by
    have opened := inStep.step path credentials library (.start tag.1 tag.2)
    obtain ⟨after, inside, closes⟩ := opened.nodes children
    have closed := inside.step path credentials library (.finish tag.1)
    have level : keyCounter.next (keyCounter.next depth (.start tag.1 tag.2))
        (.finish tag.1) = depth :=
      (keyCounter.depthAfter_node depth (.element tag []))
    rw [level] at closed
    refine ⟨_, by
      rw [Node.events, runFrom, List.foldl_cons, List.foldl_append]
      exact closed, ?_⟩
    intro unread
    change (if keyCounter.next depth (.start tag.1 tag.2) ≤ maxXmlDepth ∧
      isFieldTag (tagName tag.1) = true then false else after) = false
    split
    · rfl
    · -- What does not end a field did not start one, at the same depth.
      rename_i noEnd
      apply closes
      have noStart : ¬(depth ≤ maxXmlDepth ∧ isFieldTag (tagName tag.1) = true) := by
        rintro ⟨within, field⟩
        have plain : ¬isKey tag.1 = true :=
          fun key => field_not_key field ((isKey_iff tag.1).mp key)
        have same : keyCounter.next depth (.start tag.1 tag.2) = depth := if_neg plain
        rw [same] at noEnd
        exact noEnd ⟨within, field⟩
      exact (if_neg noStart).trans unread

theorem InStep.nodes {depth : Nat} {reading : Bool} {state : XmlState}
    (inStep : InStep depth reading state) : (nodes : List XmlNode) → ∃ after, InStep depth after
      (runFrom path credentials library state (eventsOf xmlReading nodes)) ∧
        (reading = false → after = false)
  | [] => ⟨reading, inStep, id⟩
  | node :: rest => by
    obtain ⟨between, first, closes⟩ := inStep.node node
    obtain ⟨after, later, closesThen⟩ := first.nodes rest
    refine ⟨after, ?_, fun unread => closesThen (closes unread)⟩
    rw [eventsOf, runFrom_append]
    exact later

end

theorem run_nodes (idle : Idle state) (shape : state.stack = []) {nodes : List XmlNode}
    (noBars : ∀ event ∈ eventsOf xmlReading nodes, opensBars event = false) :
    Arrives path library [] [] state
      (runFrom path credentials library state (eventsOf xmlReading nodes)) := by
  have start : InStep 0 false state := by
    refine ⟨?_, idle.ignored, ?_⟩
    · rw [shape]
      rfl
    · rw [idle.field]
      rfl
  obtain ⟨after, ended, closes⟩ := start.nodes path credentials library nodes
  have barless : Barless state := by
    rw [Barless, shape]
    exact fun _ member => nomatch member
  refine ⟨⟨ended.ignored, ?_⟩, List.eq_nil_of_length_eq_zero ended.stack,
    run_barless path credentials library barless noBars⟩
  rw [← Option.isNone_iff_eq_none, ← Option.not_isSome, ended.reading, closes rfl]
  rfl

theorem run_export_part (idle : Idle state) (shape : state.stack = []) (part : ExportPart) :
    Arrives path library [] (part.places.filter (Place.sent library)) state
      (runFrom path credentials library state part.events) := by
  cases part with
  | bars key isBars items => exact run_bars path credentials library idle shape isBars items
  | nodes forest noBars => exact run_nodes path credentials library idle shape noBars
  | aside event passed =>
    rw [ExportPart.events, runFrom, List.foldl_cons,
      step_aside path credentials library idle passed]
    exact ⟨idle, shape, Makes.none rfl rfl⟩

theorem run_export (idle : Idle state) (shape : state.stack = []) (parts : List ExportPart) :
    Arrives path library [] ((parts.flatMap ExportPart.places).filter (Place.sent library)) state
      (runFrom path credentials library state (parts.flatMap ExportPart.events)) := by
  induction parts generalizing state with
  | nil => exact ⟨idle, shape, Makes.none rfl rfl⟩
  | cons part rest ih =>
    have first := run_export_part path credentials library idle shape part
    rw [List.flatMap_cons, List.flatMap_cons, runFrom_append, List.filter_append]
    exact first.trans (ih first.idle first.stack)

end Made

end Onetcli.Importers.SecureCrt
