import TaskNet.CommandLine.Run

/-!
# What a run leaves behind

A run that generates a program writes its texts one after the other, each time a whole file. What is
read at a path afterwards is therefore the text that was written last to the place that the path
leads to, and everything else is as it was before. Two of the paths may lead to the same place:
there the texts that were written first are lost.
-/

namespace TaskNet.CommandLine

/-! ### Texts that are written one after the other -/

/-- The text that deliveries write last to the place that a path leads to. -/
def lastText? (folder : Folder) (path : String) : List Delivery → Option String
  | [] => none
  | delivery :: rest =>
    lastText? folder path rest <|>
      if delivery.path.any (folder.samePlace path) then some delivery.text else none

/-- What there is to print of deliveries. -/
def printedText (deliveries : List Delivery) : String :=
  String.join ((deliveries.filter (·.path = none)).map (·.text))

/-- What deliveries make of one session is the other one. -/
structure Delivers (deliveries : List Delivery) (before after : Session) : Prop where
  /-- Texts without a path are printed. -/
  printed : after.printed = before.printed ++ printedText deliveries
  /-- Paths lead where they led before. -/
  place? : ∀ path, after.folder.place? path = before.folder.place? path
  /-- Every path has the text that was written last to its place, or what it had before. -/
  read : ∀ path, after.folder.read path =
    ((lastText? before.folder path deliveries).map fun text => .file (Text.encode text)).getD
      (before.folder.read path)

/-- Only where paths lead matters for the text that is written last. -/
theorem lastText?_congr {folder other : Folder}
    (h : ∀ path, folder.place? path = other.place? path) (path : String)
    (deliveries : List Delivery) :
    lastText? folder path deliveries = lastText? other path deliveries := by
  induction deliveries with
  | nil => rfl
  | cons delivery rest ih => simp only [lastText?, Folder.samePlace_congr h, ih]

theorem run_write (path text : String) (session : Session) :
    (Session.console.write path text).run session =
      match session.folder.write? path text with
      | some folder => (true, { session with folder })
      | none => (false, session) := by
  simp only [Session.console, StateT.run_bind, StateT.run_get, pure_bind]
  cases session.folder.write? path text with
  | none => rfl
  | some folder => rfl

theorem run_deliver_write (path text : String) (rest : List Delivery) (session : Session) :
    (deliver Session.console ({ path := some path, text } :: rest)).run session =
      match session.folder.write? path text with
      | some folder => (deliver Session.console rest).run { session with folder }
      | none => (false, session) := by
  simp only [deliver, StateT.run_bind, run_write]
  cases session.folder.write? path text with
  | none => rfl
  | some folder => rfl

theorem Delivers.nil (session : Session) : Delivers [] session session where
  printed := String.append_empty.symm
  place? _ := rfl
  read _ := rfl

theorem Delivers.print {text : String} {rest : List Delivery} {before after : Session}
    (h : Delivers rest { before with printed := before.printed ++ text } after) :
    Delivers ({ path := none, text } :: rest) before after where
  printed := by
    rw [h.printed]
    simp [printedText, String.append_assoc]
  place? := h.place?
  read path := by
    rw [h.read]
    simp [lastText?]

/-- A text that is written is found at its place, unless a later one goes there too. -/
theorem Delivers.write {path text : String} {rest : List Delivery} {before after : Session}
    {folder : Folder} (hwrite : before.folder.write? path text = some folder)
    (h : Delivers rest { before with folder } after) :
    Delivers ({ path := some path, text } :: rest) before after where
  printed := h.printed
  place? other := (h.place? other).trans (Folder.place?_write? hwrite other)
  read other := by
    rw [h.read, lastText?_congr (Folder.place?_write? hwrite), lastText?]
    cases lastText? before.folder other rest with
    | some last => rfl
    | none =>
      rw [Folder.read_write? hwrite]
      by_cases hsame : before.folder.samePlace other path
      · simp [hsame]
      · simp [hsame]

/-- If every text of a list could be written, the list has been delivered. -/
theorem delivers_of_run {deliveries : List Delivery} {before : Session}
    (h : ((deliver Session.console deliveries).run before).1 = true) :
    Delivers deliveries before ((deliver Session.console deliveries).run before).2 := by
  induction deliveries generalizing before with
  | nil => exact .nil before
  | cons delivery rest ih =>
    obtain ⟨_ | path, text⟩ := delivery
    · exact (ih h).print
    · rw [run_deliver_write] at h ⊢
      cases hwrite : before.folder.write? path text with
      | none =>
        rw [hwrite] at h
        cases h
      | some folder =>
        rw [hwrite] at h
        exact (ih h).write hwrite

/-- Nothing is reported on the way. -/
theorem reported_deliver (deliveries : List Delivery) (session : Session) :
    ((deliver Session.console deliveries).run session).2.reported = session.reported := by
  induction deliveries generalizing session with
  | nil => rfl
  | cons delivery rest ih =>
    obtain ⟨_ | path, text⟩ := delivery
    · exact ih _
    · rw [run_deliver_write]
      cases session.folder.write? path text with
      | none => rfl
      | some folder => exact ih _

/-! ### Runs on loaded sources -/

/-- The action leaves every session as it is. -/
def OnlyLooks {α : Type} (action : StateM Session α) : Prop :=
  ∀ session, (action.run session).2 = session

theorem onlyLooks_pure {α : Type} (value : α) : OnlyLooks (pure value) := fun _ => rfl

theorem onlyLooks_read (path : String) : OnlyLooks (Session.console.read path) := fun _ => rfl

theorem OnlyLooks.bind {α β : Type} {action : StateM Session α} {next : α → StateM Session β}
    (h : OnlyLooks action) (hnext : ∀ value, OnlyLooks (next value)) :
    OnlyLooks (action >>= next) := by
  intro session
  rw [StateT.run_bind]
  exact (hnext _ _).trans (h session)

theorem onlyLooks_loadSettings (source : Source) :
    OnlyLooks (loadSettings Session.console source) := by
  unfold loadSettings
  cases source.config with
  | none => exact onlyLooks_pure _
  | some path => exact (onlyLooks_read path).bind fun found => onlyLooks_pure _

theorem onlyLooks_loadPath (path : String) (format : Option Format) (settings : Settings) :
    OnlyLooks (loadPath Session.console path format settings) := by
  unfold loadPath
  cases formatOf path format with
  | error error => exact onlyLooks_pure _
  | ok format => exact (onlyLooks_read path).bind fun found => onlyLooks_pure _

/-- Loading changes nothing. -/
theorem onlyLooks_loadSource (source : Source) (adjust : Settings → Settings) :
    OnlyLooks (loadSource Session.console source adjust) := by
  refine (onlyLooks_loadSettings source).bind fun result => ?_
  cases result with
  | error error => exact onlyLooks_pure _
  | ok settings =>
    refine (onlyLooks_loadPath source.input source.format (adjust settings)).bind fun result => ?_
    cases result with
    | error error => exact onlyLooks_pure _
    | ok graph => exact onlyLooks_pure _

theorem run_of_parse? {arguments : List String} {request : Request}
    (hrequest : Request.parse? arguments = some request) (folder : Folder) :
    Session.run arguments folder = (request.run Session.console).run { folder } := by
  rw [Session.run, CommandLine.run, hrequest]

theorem run_report (failure : Failure) (session : Session) :
    (Session.console.report failure).run session =
      ((), { session with reported := session.reported ++ [failure] }) := rfl

/-- Reporting changes neither files nor what is printed. -/
theorem run_forM_report (errors : List EmitError) (session : Session) :
    (errors.forM fun error => Session.console.report (.emit error)).run session =
      ((), { session with reported := session.reported ++ errors.map Failure.emit }) := by
  induction errors generalizing session with
  | nil =>
    rw [List.map_nil, List.append_nil]
    rfl
  | cons error rest ih =>
    rw [List.forM, StateT.run_bind, run_report]
    refine (ih _).trans ?_
    rw [List.map_cons, List.append_assoc, List.singleton_append]

/-- What a run leaves behind once its source is loaded and its texts are written. -/
theorem run_generate {options : Generate} {session : Session} {settings : Settings}
    {graph : KnowledgeGraph}
    (hload : ((loadSource Session.console options.toSource options.adjust).run session).1 =
      .ok (settings, graph))
    (hwritten : ((deliver Session.console (options.deliveries (generate graph.base settings))).run
      session).1 = true) :
    let program := generate graph.base settings
    let delivered := ((deliver Session.console (options.deliveries program)).run session).2
    (options.run Session.console).run session =
      (if program.isComplete then .success else .failure,
        { delivered with reported := delivered.reported ++
            (program.units.filterMap (·.error?)).map Failure.emit }) := by
  intro program delivered
  have hsource : (loadSource Session.console options.toSource options.adjust).run session =
      (.ok (settings, graph), session) :=
    Prod.ext hload (onlyLooks_loadSource _ _ session)
  have hdelivered : (deliver Session.console (options.deliveries program)).run session =
      (true, delivered) := Prod.ext hwritten rfl
  rw [Generate.run, StateT.run_bind, hsource]
  change StateT.run (deliver Session.console (options.deliveries program) >>= _) session = _
  rw [StateT.run_bind, hdelivered]
  change StateT.run ((program.units.filterMap (·.error?)).forM
    (fun error => Session.console.report (.emit error)) >>= _) delivered = _
  rw [StateT.run_bind, run_forM_report]
  rfl

/-- A run that summarizes prints the listing, and leaves everything else as it is. -/
theorem run_inspect {options : Inspect} {session : Session} {settings : Settings}
    {graph : KnowledgeGraph}
    (hload : ((loadSource Session.console options.toSource id).run session).1 =
      .ok (settings, graph)) :
    (options.run Session.console).run session = (.success,
      { session with printed := session.printed ++ options.listing graph.base.summary }) := by
  have hsource : (loadSource Session.console options.toSource id).run session =
      (.ok (settings, graph), session) :=
    Prod.ext hload (onlyLooks_loadSource _ _ session)
  rw [Inspect.run, StateT.run_bind, hsource]
  rfl

end TaskNet.CommandLine
