import BrowserWait.Proofs.WebDriver.Session

/-!
# Reading requests back

What a hub makes of a request: the verb, the path and the JSON body tell the command again, unless the command reads
from an element whose id has a slash in it. So no two commands share a request but such reads (`request_tells_command`).
-/

namespace BrowserWait.WebDriver.Command

/-! ## The routes of a hub -/

/-- The command of a GET request to an element, by its path below `/element/`. -/
def ofElementPath? (path : List Char) : Option Command := do
  let (id, wanted) ← Text.cut? ['/'] path
  if wanted = "displayed".toList then some (elementDisplayed ⟨String.ofList id⟩)
  else
    let name ← Text.after? "attribute/".toList wanted
    some (elementAttribute ⟨String.ofList id⟩ (String.ofList name))

/-- The command of a GET request, by its path in the session. -/
def ofGet? (path : List Char) : Option Command :=
  if path = [] then some capabilities
  else if path = "/url".toList then some currentUrl
  else if path = "/source".toList then some pageSource
  else if path = "/cookie".toList then some getCookies
  else (Text.after? "/element/".toList path).bind ofElementPath?

/-- The command of a DELETE request, by its path in the session. -/
def ofDelete? (path : List Char) : Option Command :=
  if path = [] then some quit
  else if path = "/cookie".toList then some deleteAllCookies
  else (Text.after? "/cookie/".toList path).map fun name => deleteCookie (String.ofList name)

/-- The command of a POST request, by its path in the session and its body. -/
def ofPost? (path : List Char) (body : Json) : Option Command :=
  if path = "/url".toList then do
    some (navigate (← (body.member? "url").bind Json.text?))
  else if path = "/execute".toList then
    match body.member? "script", body.member? "args" with
    | some (.string script), some (.array arguments) => some (execute script arguments)
    | _, _ => none
  else if path = "/element".toList then do
    some (findElement (← (body.member? "using").bind Json.text?) (← (body.member? "value").bind Json.text?))
  else if path = "/timeouts".toList then do
    some (setTimeouts (← (body.member? "type").bind Json.text?) (← (body.member? "ms").bind Json.natural?))
  else if path = "/cookie".toList then do
    some (addCookie (← Cookie.ofNode? (← body.member? "cookie")))
  else
    (Text.after? "/element/".toList path).bind fun rest =>
      (Text.before? "/click".toList rest).map fun id => clickElement ⟨String.ofList id⟩

/-- The command of a request, by its verb, its path below the hub and its body. -/
def ofWire? (session : String) (method : HttpMethod) (path : String) (body : Option Json) : Option Command :=
  if path = sessionsPath then
    match body.bind (Json.member? "desiredCapabilities") with
    | some (.object wanted) => some (newSession wanted)
    | _ => none
  else
    (Text.after? (sessionsPath ++ "/" ++ session).toList path.toList).bind fun below =>
      match method with
      | .get => ofGet? below
      | .delete => ofDelete? below
      | .post => body.bind (ofPost? below)

/-! ## Reading back -/

/-- The element a command reads from. -/
def readElement? : Command → Option ElementId
  | elementDisplayed id | elementAttribute id _ => some id
  | _ => none

/-- A command reads from an element whose id has a slash in it. -/
def ReadsBehindSlash (command : Command) : Prop := ∃ id, command.readElement? = some id ∧ '/' ∈ id.text.toList

theorem ofGet?_element (rest : List Char) : ofGet? ("/element/".toList ++ rest) = ofElementPath? rest := by
  have found := Text.after?_append "/element/".toList rest
  simp only [ofGet?, found]
  rfl

theorem ofElementPath?_displayed {id : ElementId} (plain : '/' ∉ id.text.toList) :
    ofElementPath? (id.text.toList ++ '/' :: "displayed".toList) = some (elementDisplayed id) := by
  rw [ofElementPath?, Text.cut?_append plain, Option.bind_eq_bind, Option.bind_some]
  dsimp only
  rw [if_pos rfl, String.ofList_toList]

theorem ofElementPath?_attribute {id : ElementId} (plain : '/' ∉ id.text.toList) (name : String) :
    ofElementPath? (id.text.toList ++ '/' :: ("attribute/".toList ++ name.toList)) =
      some (elementAttribute id name) := by
  have other : ¬ "attribute/".toList ++ name.toList = "displayed".toList := by
    intro same
    cases same
  rw [ofElementPath?, Text.cut?_append plain, Option.bind_eq_bind, Option.bind_some]
  dsimp only
  rw [if_neg other, Text.after?_append, Option.bind_eq_bind, Option.bind_some, String.ofList_toList,
    String.ofList_toList]

theorem ofGet?_command {command : Command} (get : command.method = .get) (plain : ¬ command.ReadsBehindSlash) :
    ofGet? command.pathInSession.toList = some command := by
  cases command with
  | currentUrl | pageSource | getCookies | capabilities => rfl
  | elementDisplayed id =>
    have path : (elementDisplayed id).pathInSession.toList =
        "/element/".toList ++ (id.text.toList ++ '/' :: "displayed".toList) := by
      simp [pathInSession]
    rw [path, ofGet?_element, ofElementPath?_displayed fun slash => plain ⟨id, rfl, slash⟩]
  | elementAttribute id name =>
    have path : (elementAttribute id name).pathInSession.toList =
        "/element/".toList ++ (id.text.toList ++ '/' :: ("attribute/".toList ++ name.toList)) := by
      simp [pathInSession]
    rw [path, ofGet?_element, ofElementPath?_attribute fun slash => plain ⟨id, rfl, slash⟩]
  | _ => cases get

theorem ofDelete?_command {command : Command} (delete : command.method = .delete) :
    ofDelete? command.pathInSession.toList = some command := by
  cases command with
  | quit | deleteAllCookies => rfl
  | deleteCookie name =>
    have path : (deleteCookie name).pathInSession.toList = "/cookie/".toList ++ name.toList := by
      simp [pathInSession]
    have found := Text.after?_append "/cookie/".toList name.toList
    rw [path]
    simp only [ofDelete?, found, Option.map_some, String.ofList_toList]
    rfl
  | _ => cases delete

theorem ofPost?_command {command : Command} (post : command.method = .post) (requires : command.requiresSession = true) :
    command.body?.bind (ofPost? command.pathInSession.toList) = some command := by
  cases command with
  | newSession _ => cases requires
  | navigate _ | execute _ _ | findElement _ _ | setTimeouts _ _ =>
    simp only [body?, pathInSession, Option.bind_some]
    rfl
  | addCookie cookie =>
    simp only [body?, pathInSession, Option.bind_some]
    show (Cookie.ofNode? cookie.json).bind (some ∘ addCookie) = _
    rw [Cookie.ofNode?_json]
    rfl
  | clickElement id =>
    have path : (clickElement id).pathInSession.toList = "/element/".toList ++ (id.text.toList ++ "/click".toList) := by
      simp [pathInSession]
    have found := Text.after?_append "/element/".toList (id.text.toList ++ "/click".toList)
    have front : Text.before? "/click".toList (id.text.toList ++ "/click".toList) = some id.text.toList :=
      Text.before?_eq_some_iff.mpr rfl
    rw [path, body?, Option.bind_some]
    simp only [ofPost?, found, Option.bind_some, front, Option.map_some, String.ofList_toList]
    rfl
  | _ => cases post

/-- Requests in a session are read back, unless they read from an element whose id has a slash in it. -/
theorem ofWire?_command {session path : String} {command : Command} (plain : ¬ command.ReadsBehindSlash)
    (sent : command.path (some session) = .ok path) : ofWire? session command.method path command.body? = some command := by
  cases requires : command.requiresSession with
  | false =>
    cases command with
    | newSession wanted =>
      cases sent
      rfl
    | _ => cases requires
  | true =>
    have whole : path = sessionsPath ++ "/" ++ session ++ command.pathInSession := by
      rw [Command.path, requires] at sent
      exact (Except.ok.inj sent).symm
    have other : path ≠ sessionsPath := by
      -- the slash in front of the id makes it longer, be the id empty
      intro same
      rw [whole, String.append_assoc, String.append_assoc] at same
      replace same := congrArg String.length same
      simp [sessionsPath] at same
    have chars : path.toList = (sessionsPath ++ "/" ++ session).toList ++ command.pathInSession.toList := by
      rw [whole]
      exact String.toList_append
    have below := Text.after?_append (sessionsPath ++ "/" ++ session).toList command.pathInSession.toList
    rw [← chars] at below
    rw [ofWire?, if_neg other, below, Option.bind_some]
    cases verb : command.method with
    | get => exact ofGet?_command verb plain
    | delete => exact ofDelete?_command verb
    | post => exact ofPost?_command verb requires

/-! ## Requests tell commands apart -/

/-- Reads from elements are the GET requests below `/element/`. -/
theorem reads_iff (session : String) (command : Command) :
    (∃ id, command.readElement? = some id) ↔
      command.method = .get ∧ ∃ rest, command.path (some session) =
        .ok (sessionsPath ++ "/" ++ session ++ ("/element/" ++ rest)) := by
  constructor
  · rintro ⟨id, reads⟩
    cases command with
    | elementDisplayed id =>
      refine ⟨rfl, id.text ++ "/displayed", ?_⟩
      simp [path, requiresSession, pathInSession, String.append_assoc]
    | elementAttribute id name =>
      refine ⟨rfl, id.text ++ "/attribute/" ++ name, ?_⟩
      simp [path, requiresSession, pathInSession, String.append_assoc]
    | _ => cases reads
  · rintro ⟨get, rest, sent⟩
    have below (requires : command.requiresSession = true) : command.pathInSession = "/element/" ++ rest := by
      rw [path, requires] at sent
      exact (String.append_right_inj _).mp (Except.ok.inj sent)
    cases command with
    | elementDisplayed id => exact ⟨id, rfl⟩
    | elementAttribute id name => exact ⟨id, rfl⟩
    | currentUrl | pageSource | getCookies | capabilities =>
      have same := congrArg String.toList (below rfl)
      simp [pathInSession] at same
    | _ => cases get

theorem path_some (session : String) (command : Command) : ∃ path, command.path (some session) = .ok path := by
  cases requires : command.requiresSession with
  | false => exact ⟨sessionsPath, by rw [path, requires]; rfl⟩
  | true => exact ⟨sessionsPath ++ "/" ++ session ++ command.pathInSession, by rw [path, requires]; rfl⟩

/-- A JSON body as a request carries it. -/
def carried (body : Option Json) : RequestBody :=
  match body with
  | some value => .json value
  | none => .empty

theorem carried_inj {a b : Option Json} (same : carried a = carried b) : a = b := by
  cases a with
  | none =>
    cases b with
    | none => rfl
    | some _ => cases same
  | some _ =>
    cases b with
    | none => cases same
    | some _ =>
      cases same
      rfl

theorem request_eq_iff (hub session : String) (a b : Command) :
    a.request hub (some session) = b.request hub (some session) ↔
      a.method = b.method ∧ a.path (some session) = b.path (some session) ∧ a.body? = b.body? := by
  obtain ⟨pathA, sentA⟩ := path_some session a
  obtain ⟨pathB, sentB⟩ := path_some session b
  have requestA : a.request hub (some session) = .ok ⟨a.method, hub ++ "/" ++ pathA, carried a.body?⟩ := by
    rw [request, sentA]
    rfl
  have requestB : b.request hub (some session) = .ok ⟨b.method, hub ++ "/" ++ pathB, carried b.body?⟩ := by
    rw [request, sentB]
    rfl
  rw [requestA, requestB, sentA, sentB, Except.ok.injEq, Except.ok.injEq, Request.mk.injEq, String.append_right_inj]
  exact and_congr_right fun _ => and_congr_right fun _ => ⟨carried_inj, congrArg carried⟩

/-- Two commands read from elements, and the id of one of the elements has a slash in it. -/
def Confusable (a b : Command) : Prop :=
  (∃ id, a.readElement? = some id) ∧ (∃ id, b.readElement? = some id) ∧ (a.ReadsBehindSlash ∨ b.ReadsBehindSlash)

/-- The request of a command in a session is its verb, its path and its JSON body, and tells the command: commands with
the same request are the same, or both read from elements and the id of one of these has a slash in it. -/
theorem request_tells_command (hub session : String) (a b : Command) :
    (a.request hub (some session) = b.request hub (some session) ↔
        a.method = b.method ∧ a.path (some session) = b.path (some session) ∧ a.body? = b.body?) ∧
      (a.request hub (some session) = b.request hub (some session) → a = b ∨ Confusable a b) := by
  refine ⟨request_eq_iff hub session a b, fun same => ?_⟩
  obtain ⟨method, path, body⟩ := (request_eq_iff hub session a b).mp same
  -- reads from elements are told by verb and path, whatever the ids
  have both : (∃ id, a.readElement? = some id) ↔ ∃ id, b.readElement? = some id := by
    rw [reads_iff session a, reads_iff session b, method, path]
  by_cases slashA : a.ReadsBehindSlash
  · have reads : ∃ id, a.readElement? = some id := slashA.imp fun _ => And.left
    exact .inr ⟨reads, both.mp reads, .inl slashA⟩
  by_cases slashB : b.ReadsBehindSlash
  · have reads : ∃ id, b.readElement? = some id := slashB.imp fun _ => And.left
    exact .inr ⟨both.mpr reads, reads, .inr slashB⟩
  · obtain ⟨pathA, sentA⟩ := path_some session a
    have readA := ofWire?_command slashA sentA
    have readB := ofWire?_command slashB (path ▸ sentA)
    rw [method, body, readB] at readA
    exact .inl (Option.some.inj readA).symm

/-- Behind a slash, whether one element is displayed and what an attribute of another one is are asked for alike. -/
theorem request_shared_behind_slash :
    let a := elementDisplayed ⟨"7/attribute/x"⟩
    let b := elementAttribute ⟨"7"⟩ "x/displayed"
    a.request "hub" (some "s") = b.request "hub" (some "s") ∧ a ≠ b ∧ Confusable a b := by
  intro a b
  have same : a.request "hub" (some "s") = b.request "hub" (some "s") := by decide
  have differ : a ≠ b := by decide
  exact ⟨same, differ, ((request_tells_command "hub" "s" a b).2 same).resolve_left differ⟩

end BrowserWait.WebDriver.Command
