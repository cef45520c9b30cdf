import Workbench.Proofs.CommandLine.SignedIn
import Workbench.Proofs.Gateway.Endpoints
import Workbench.Proofs.Gateway.Requests
import Workbench.Proofs.Workflow.Admission

/-!
# Operations from the command line

A run that is told to compile, analyze or optimize reads the code, looks up who is signed in, asks
the backend, shows the answer and exits. Before it exits it also registers valid code, of which
nothing is to be seen.

* `Attempts` — one request is attempted, and what is sent for it.
* `operations_run` — what such a run sends, and whether it succeeds, for every session folder, code
  and network.
* `operation_requests_vary` — a run that gives help sends nothing, and the request of an operation
  may be sent more than once.
-/

namespace Workbench.CommandLine

open Workbench.Disk (Folder Place)
open Workbench.Gateway
open Workbench.Session (FileStore recordName)
open Workbench.Text (Bytes)
open Workbench.Url (IsWeb WebPath webPath_of_parse)
open Workbench.Workflow (Answers Desk Waiting)

/-! ### Code -/

/-- Where the code is to be found, in the standard input or in a file, there are the bytes of it. -/
def HoldsCode (m : Machine) (disk : Disk) (code : Submission) : Option String → Prop
  | none => m.input = Text.toBytes code.code
  | some path => ∃ front name place folder, Disk.Path.split path = (front, some name) ∧
      disk.folderAt (if front.isEmpty then "." else front) = .ok (place, folder) ∧
      folder.read name = .ok (Text.toBytes code.code)

section

variable {m : Machine} {disk : Disk} {code : Submission} {file : Option String}

theorem readText_eq_ok_iff {name text : String} {folder : Folder} :
    folder.readText name = .ok text ↔ folder.read name = .ok (Text.toBytes text) := by
  unfold Folder.readText
  split
  next e h => simp only [h, reduceCtorEq]
  next data h =>
    rw [h, Except.ok.injEq, ← Text.ofBytes?_eq_some_iff]
    split
    next s hs => rw [hs, Except.ok.injEq, Option.some.injEq]
    next hs => simp only [hs, reduceCtorEq]

/-- The code that is read is what is there, unchanged. -/
theorem readCode_eq_ok_iff : readCode m disk file = .ok code ↔ HoldsCode m disk code file := by
  cases file with
  | none =>
    rw [HoldsCode, ← Text.ofBytes?_eq_some_iff, readCode, codeOfInput]
    split
    next s hs =>
      rw [hs, Except.ok.injEq, Option.some.injEq]
      exact ⟨fun h => h ▸ rfl, fun h => h ▸ rfl⟩
    next hs => simp only [hs, reduceCtorEq]
  | some path =>
    simp only [HoldsCode, ← readText_eq_ok_iff, readCode, codeOfFile]
    constructor
    · intro h
      split at h
      next => cases h
      next front name hsplit =>
        split at h
        next => cases h
        next place folder hfolder =>
          split at h
          next => cases h
          next text htext =>
            cases h
            exact ⟨front, name, place, folder, hsplit, hfolder, htext⟩
    · rintro ⟨front, name, place, folder, hsplit, hfolder, htext⟩
      simp only [hsplit, hfolder, htext]

end

/-! ### Requests -/

/-- One request is attempted after some traffic: it is posted to an endpoint beneath the base, and
carries the given fields. It is sent with all that the responses ask for in its place, or it is not
sent at all because its address is of no use. -/
inductive Attempts (base : Url) (network : Network) (e : Endpoint) (fields : List (String × String))
    (before : Traffic) : Traffic → Prop where
  /-- It is sent. -/
  | sent (r : Request) (sent : Traffic) : r.method = .post → IsBeneath base r.url e.path →
      isSendable r.url = true → Carries r fields → Trail network before r sent →
      FollowsAll redirectLimit sent → Attempts base network e fields before sent
  /-- It cannot be sent. -/
  | unsendable (url : Url) : IsBeneath base url e.path → isSendable url = false →
      Attempts base network e fields before []

section

variable {u : Url} {parts : List String} {α : Type}

/-- A call attempts one request, and has an answer where the response to it is read as one. -/
theorem exchange_attempts (h : WebPath u parts) (network : Network) (traffic : Traffic)
    (c : Call α) : ∃ sent, Attempts u network c.endpoint c.fields traffic sent ∧
      ((ofUrl u).exchange network traffic c).2 = traffic ++ sent ∧
      ∀ x, ((ofUrl u).exchange network traffic c).1 = .ok x ↔
        ∃ status body, Reads sent status body ∧ c.read status body = .ok x := by
  have hbeneath := (isBeneath_endpoint h c.endpoint).withoutUser
  cases hsendable : isSendable (withoutUser (c.endpoint.beneath u parts)) with
  | false =>
    have hrequest : (ofUrl u).requestOf c =
        .error (unsendable (withoutUser (c.endpoint.beneath u parts))) := by
      simp only [requestOf, request, join_endpoint h, hsendable, Bool.false_eq_true, if_false]
    rw [exchange_of_error hrequest]
    refine ⟨[], .unsendable _ hbeneath hsendable, (List.append_nil _).symm, fun x => ?_⟩
    constructor
    · intro hanswer
      cases hanswer
    · rintro ⟨status, body, hreads, -⟩
      exact absurd rfl hreads.ne_nil
  | true =>
    have hrequest : (ofUrl u).requestOf c =
        .ok ⟨.post, withoutUser (c.endpoint.beneath u parts), Json.compactObject c.fields⟩ := by
      simp only [requestOf, request, join_endpoint h, hsendable, if_true]
    obtain ⟨sent, hsent, htrail, hfollows, hreads⟩ := fetch_spec network traffic
      ⟨.post, withoutUser (c.endpoint.beneath u parts), Json.compactObject c.fields⟩
    refine ⟨sent, .sent _ sent rfl hbeneath hsendable (carries_of_body rfl) htrail hfollows,
      (exchange_traffic hrequest).trans hsent, fun x => ?_⟩
    simp only [exchange_eq_ok_iff hrequest, hreads]

/-- What a call comes to does not depend on what becomes of later requests. -/
theorem exchange_congr {network network' : Network} {traffic all : Traffic} {g : Gateway}
    {c : Call α} (hall : (g.exchange network traffic c).2 = all)
    (h : SameBefore all network network') :
    g.exchange network' traffic c = g.exchange network traffic c := by
  cases hr : g.requestOf c with
  | error e => rw [exchange_of_error hr, exchange_of_error hr]
  | ok r =>
    rw [← hall, exchange_traffic hr] at h
    simp only [exchange, hr, fetch_congr h]

end

/-! ### Operations -/

/-- The endpoint that an operation asks. -/
def endpointOf : Operation → Endpoint
  | .compile => .check
  | .analyze => .analyze
  | .optimize => .optimize

/-- What an operation sends: the code, and for whom unless it is a compilation. -/
def fieldsOf (op : Operation) (user : Identifier) (code : Submission) : List (String × String) :=
  match op with
  | .compile => [("code", code.code)]
  | .analyze | .optimize => [("email", user.text), ("code", code.code)]

/-- A response says that an operation has succeeded. -/
def MeansSuccess : Operation → Nat → Bytes → Prop
  | .compile, status, body => compileOf status body = .ok .valid
  | .analyze, status, body => ∃ complexity, analyzeOf status body = .ok (.success complexity)
  | .optimize, status, body =>
    ∃ code complexity, optimizeOf status body = .ok (.success code complexity)

/-- The response that is read after some requests says so. -/
def BringsSuccess (op : Operation) (sent : Traffic) : Prop :=
  ∃ status body, Reads sent status body ∧ MeansSuccess op status body

/-- The answer to a compilation is a success if the code is valid, and then it is registered. -/
theorem compile_succeeded_iff {reply : Except GatewayError CompileOutcome} :
    (Workflow.phaseOf (reply.map .compile) = .succeeded ↔ reply = .ok .valid) ∧
      (Workflow.isValid (reply.map .compile) = true ↔ reply = .ok .valid) := by
  cases reply with
  | error e => exact ⟨iff_of_false nofun nofun, iff_of_false nofun nofun⟩
  | ok o =>
    cases o with
    | valid => exact ⟨iff_of_true rfl rfl, iff_of_true rfl rfl⟩
    | invalid diagnostics stats => exact ⟨iff_of_false nofun nofun, iff_of_false nofun nofun⟩

theorem analyze_succeeded_iff {reply : Except GatewayError AnalyzeOutcome} :
    Workflow.phaseOf (reply.map .analyze) = .succeeded ↔
      ∃ complexity, reply = .ok (.success complexity) := by
  cases reply with
  | error e => exact iff_of_false nofun nofun
  | ok o =>
    cases o with
    | success complexity => exact iff_of_true rfl ⟨complexity, rfl⟩
    | failure reason => exact iff_of_false nofun nofun

theorem optimize_succeeded_iff {reply : Except GatewayError OptimizeOutcome} :
    Workflow.phaseOf (reply.map .optimize) = .succeeded ↔
      ∃ code complexity, reply = .ok (.success code complexity) := by
  cases reply with
  | error e => exact iff_of_false nofun nofun
  | ok o =>
    cases o with
    | success code complexity => exact iff_of_true rfl ⟨code, complexity, rfl⟩
    | failure reason => exact iff_of_false nofun nofun

/-- What is asked for an operation: one request is attempted, and the operation is well if it brings
success. Only after a compilation that is well one more is attempted, which registers the code. -/
structure Asks (base : Url) (network : Network) (op : Operation) (user : Identifier)
    (code : Submission) (isWell : Prop) (first all : Traffic) : Prop where
  /-- One request is attempted. -/
  attempts : Attempts base network (endpointOf op) (fieldsOf op user code) [] first
  /-- The operation is well if it brings success. -/
  well : isWell ↔ BringsSuccess op first
  /-- Valid code is registered. -/
  registers : op = .compile → isWell → ∃ second, Attempts base network .analyze
    [("email", user.text), ("code", code.code)] first second ∧ all = first ++ second
  /-- That is all. -/
  only : ¬(op = .compile ∧ isWell) → all = first

section

variable {u : Url} {parts : List String} {network network' : Network}

/-- What is asked for an invocation, and that the answer does not depend on what becomes of a
registration. -/
theorem asks_ask (h : WebPath u parts) (network : Network) (w : Waiting) : ∃ first,
    Asks u network w.operation w.user w.code
      (Workflow.phaseOf ((ask (ofUrl u) network w).1.reply w.operation) = .succeeded) first
      (ask (ofUrl u) network w).2 ∧
    ∀ network', SameBefore first network network' →
      (ask (ofUrl u) network' w).1.reply w.operation =
        (ask (ofUrl u) network w).1.reply w.operation := by
  obtain ⟨op, ticket, user, code⟩ := w
  cases op with
  | compile =>
    obtain ⟨first, hattempts, hfirst, hreply⟩ := exchange_attempts h network [] (check code)
    obtain ⟨hsucceeded, hvalid⟩ := @compile_succeeded_iff
      ((ofUrl u).exchange network [] (check code)).1
    have hwell (answers : Answers)
        (hcheck : answers.check = ((ofUrl u).exchange network [] (check code)).1) :
        Workflow.phaseOf (answers.reply .compile) = .succeeded ↔
          BringsSuccess .compile first := by
      rw [Answers.reply, hcheck, hsucceeded, hreply]
      rfl
    refine ⟨first, ?_, fun network' hsame => ?_⟩
    · unfold ask
      dsimp only
      split
      next hregister =>
        obtain ⟨second, hattempts', hsecond, -⟩ := exchange_attempts h network
          ((ofUrl u).exchange network [] (check code)).2 (register user code)
        rw [hfirst] at hattempts' hsecond
        exact ⟨hattempts, hwell _ rfl, fun _ _ => ⟨second, hattempts', hfirst ▸ hsecond⟩,
          fun hnot => absurd ⟨rfl, hsucceeded.mpr (hvalid.mp hregister)⟩ hnot⟩
      next hregister =>
        exact ⟨hattempts, hwell _ rfl,
          fun _ hphase => absurd (hvalid.mpr (hsucceeded.mp hphase)) hregister, fun _ => hfirst⟩
    · simp only [ask, exchange_congr hfirst hsame]
      split <;> rfl
  | analyze =>
    obtain ⟨first, hattempts, hfirst, hreply⟩ := exchange_attempts h network [] (analyze user code)
    refine ⟨first, ⟨hattempts, analyze_succeeded_iff.trans ?_, nofun, fun _ => hfirst⟩,
      fun network' hsame => by simp only [ask, exchange_congr hfirst hsame]⟩
    refine (exists_congr fun complexity => hreply (.success complexity)).trans ?_
    constructor
    · rintro ⟨complexity, status, body, hreads, hread⟩
      exact ⟨status, body, hreads, complexity, hread⟩
    · rintro ⟨status, body, hreads, complexity, hread⟩
      exact ⟨complexity, status, body, hreads, hread⟩
  | optimize =>
    obtain ⟨first, hattempts, hfirst, hreply⟩ := exchange_attempts h network [] (optimize user code)
    refine ⟨first, ⟨hattempts, optimize_succeeded_iff.trans ?_, nofun, fun _ => hfirst⟩,
      fun network' hsame => by simp only [ask, exchange_congr hfirst hsame]⟩
    refine (exists_congr fun code => exists_congr fun complexity =>
      hreply (.success code complexity)).trans ?_
    constructor
    · rintro ⟨code, complexity, status, body, hreads, hread⟩
      exact ⟨status, body, hreads, code, complexity, hread⟩
    · rintro ⟨status, body, hreads, code, complexity, hread⟩
      exact ⟨code, complexity, status, body, hreads, hread⟩

end

/-- What is shown of an invocation at its end, and how it ended, is decided by its answer. -/
theorem finish_congr (d : Desk) (w : Waiting) {answers answers' : Answers}
    (h : answers'.reply w.operation = answers.reply w.operation) (handling : Workflow.Handling) :
    (d.finish w answers' handling).1.shown = (d.finish w answers handling).1.shown ∧
      (d.finish w answers' handling).2.phase = (d.finish w answers handling).2.phase := by
  unfold Desk.finish
  rw [h]
  dsimp only
  split <;> exact ⟨rfl, rfl⟩

theorem phase_finish (d : Desk) (w : Waiting) (answers : Answers) (handling : Workflow.Handling) :
    (d.finish w answers handling).2.phase = Workflow.phaseOf (answers.reply w.operation) := by
  unfold Desk.finish
  dsimp only
  split <;> rfl

section

variable {g : Gateway} {network network' : Network} {policy : Workflow.Policy} {store : FileStore}
  {op : Operation} {code : Submission}

/-- An operation that is turned away fails without a request. -/
theorem operate_of_error {message : String}
    (h : Workflow.gate op store.get code = .error message) :
    (operate g network policy store op code).traffic = [] ∧
      (operate g network policy store op code).isWell = false := by
  unfold operate
  rw [Desk.start_of_error _ h]
  exact ⟨rfl, rfl⟩

/-- An operation that is let in ends with the answer to what it asks for. -/
theorem operate_of_ok {session : Session} (h : Workflow.gate op store.get code = .ok session)
    (policy : Workflow.Policy) : ∃ (desk : Desk) (ticket : Nat), ∀ (g : Gateway) (network : Network),
      let w : Waiting := ⟨op, ticket, session.user, code⟩
      let asked := ask g network w
      let ended := desk.finish w asked.1 .awaited
      operate g network policy store op code =
        ⟨.ok (shownText ended.1, ended.2.phase == .succeeded), store, asked.2⟩ := by
  obtain ⟨desk, hstart⟩ : ∃ desk, (Desk.empty policy).start op store.get code =
      (desk, .waiting ⟨op, (Desk.empty policy).board.latest + 1, session.user, code⟩) :=
    ⟨_, Desk.start_of_ok _ h⟩
  exact ⟨desk, (Desk.empty policy).board.latest + 1, fun g network => by
    simp only [operate, hstart]⟩

end

/-! ### Runs -/

/-- A run fails without a request. -/
structure FailsUnasked (r : Finished) : Prop where
  /-- Nothing is sent. -/
  traffic : r.traffic = []
  /-- It exits with failure. -/
  code : r.code = 1

/-- A run goes on as another one but for its requests. -/
structure SameButTraffic (r r' : Finished) : Prop where
  /-- It exits alike. -/
  code : r'.code = r.code
  /-- It prints the same. -/
  output : r'.output = r.output
  /-- It complains alike. -/
  complaint : r'.complaint = r.complaint

/-- A run does an operation for a user: what it asks for is sent, and it exits with success if the
operation is well, and with failure otherwise. All this is decided by what becomes of the first
request and of those that take its place, so nothing is to be seen of a registration. -/
def Operates (base : Url) (network : Network) (op : Operation) (user : Identifier)
    (code : Submission) (result : Network → Finished) : Prop :=
  let r := result network
  (r.code = 0 ∨ r.code = 1) ∧ ∃ first, Asks base network op user code (r.code = 0) first r.traffic ∧
    ∀ network', SameBefore first network network' → SameButTraffic r (result network')

section

variable {m : Machine} {settings : Settings} {url : Url} {disk : Disk} {place : Place}
  {store : FileStore} {op : Operation} {file : Option String} {code : Submission}

theorem finished_code_eq_zero_iff (d : Done) :
    (finished disk place d).code = 0 ↔ d.isWell = true := by
  rw [finished_code]
  cases d.isWell with
  | false => exact iff_of_false Nat.one_ne_zero Bool.false_ne_true
  | true => exact iff_of_true rfl rfl

theorem finished_traffic (d : Done) : (finished disk place d).traffic = d.traffic := by
  unfold finished
  split <;> rfl

theorem failsUnasked_finished {d : Done} (htraffic : d.traffic = []) (hwell : d.isWell = false) :
    FailsUnasked (finished disk place d) := by
  refine ⟨by rw [finished_traffic, htraffic], ?_⟩
  rw [finished_code, hwell]
  rfl

theorem sameButTraffic_finished {d d' : Done} (h : d'.ending = d.ending) :
    SameButTraffic (finished disk place d) (finished disk place d') := by
  unfold finished
  rw [h]
  dsimp only
  split <;> exact ⟨rfl, rfl, rfl⟩

/-- An operation that is let in is done for whoever is signed in. -/
theorem operates_finished {parts : List String} (h : WebPath url parts) (network : Network)
    (policy : Workflow.Policy) {session : Session}
    (hgate : Workflow.gate op store.get code = .ok session) :
    Operates url network op session.user code fun network =>
      finished disk place (operate (ofUrl url) network policy store op code) := by
  obtain ⟨desk, ticket, hoperate⟩ := operate_of_ok hgate policy
  obtain ⟨first, hasks, hreply⟩ := asks_ask h network ⟨op, ticket, session.user, code⟩
  refine ⟨?_, first, ?_, fun network' hsame => sameButTraffic_finished ?_⟩
  · rw [finished_code]
    split
    next => exact .inl rfl
    next => exact .inr rfl
  · rw [finished_traffic, finished_code_eq_zero_iff, hoperate]
    simpa only [Done.isWell, phase_finish, beq_iff_eq] using hasks
  · obtain ⟨hshown, hphase⟩ := finish_congr desk _ (hreply network' hsame) .awaited
    rw [hoperate, hoperate, shownText, hshown, hphase, shownText]

end

section

variable {m : Machine} {op : Operation} {file : Option String} {settings : Settings} {url : Url}
  (hread : read m.arguments = .ok (.operate op file))
  (hload : Settings.load ⟨m.environment, m.disk, []⟩ = .ok settings)
  (hurl : settings.url = .ok url)

include hread hload hurl

theorem run_of_unopened {e : StoreError}
    (hopen : FileStore.openAt m.disk settings.folder m.tag = .error e) (network : Network) :
    run network m = broken m ["open session directory " ++ settings.folder, e.message] := by
  simp only [run, hread, hload, hurl, hopen]

theorem run_of_opened {disk : Disk} {place : Place} {store : FileStore}
    (hopen : FileStore.openAt m.disk settings.folder m.tag = .ok (disk, place, store))
    (network : Network) : run network m = finished disk place
      (perform m network settings (ofUrl url) disk store (.operate op file)) := by
  obtain ⟨entries, rfl, -⟩ := openAt_eq_ok hopen
  exact Opens.run_eq ⟨hread, hload, hurl, hopen⟩ network

end

/-- **What a run sends and how it exits is decided by its code, whoever is signed in, and the
response to the operation.** Without anybody signed in, or without the code that it needs, it fails
and sends nothing. Otherwise it attempts one request with the code as it is, goes where responses
send it, and succeeds if the response in the end says so; only for code that was found valid it
attempts one more request before it exits, and whatever becomes of that changes nothing of what it
prints or how it exits. Where the code cannot be read it fails without a request, and prints
nothing. -/
theorem operations_run {m : Machine} {op : Operation} {file : Option String} {settings : Settings}
    {url : Url} (hread : read m.arguments = .ok (.operate op file))
    (hload : Settings.load ⟨m.environment, m.disk, []⟩ = .ok settings)
    (hurl : settings.url = .ok url) (hweb : IsWeb url.scheme) (network : Network) :
    let r := run network m
    (∀ e, FileStore.openAt m.disk settings.folder m.tag = .error e →
      FailsUnasked r ∧ r.output = "") ∧
    ∀ disk place store,
      FileStore.openAt m.disk settings.folder m.tag = .ok (disk, place, store) →
        ((∀ code, ¬HoldsCode m disk code file) → FailsUnasked r ∧ r.output = "") ∧
        ∀ code, HoldsCode m disk code file →
          ((∀ session, store.get ≠ .ok (some session)) → FailsUnasked r) ∧
          (op ≠ .compile → code.code = "" → FailsUnasked r) ∧
          ∀ session, store.get = .ok (some session) → op = .compile ∨ code.code ≠ "" →
            Operates url network op session.user code (run · m) := by
  obtain ⟨parts, hpath⟩ := webPath_of_parse hurl hweb
  refine ⟨fun e hopen => ?_, fun disk place store hopen => ⟨fun hcode => ?_, fun code hcode => ?_⟩⟩
  · rw [run_of_unopened hread hload hurl hopen]
    exact ⟨⟨rfl, rfl⟩, rfl⟩
  · rw [run_of_opened hread hload hurl hopen, perform]
    cases hfound : readCode m disk file with
    | error causes => exact ⟨⟨rfl, rfl⟩, rfl⟩
    | ok code => exact absurd (readCode_eq_ok_iff.mp hfound) (hcode code)
  · have hrun (network : Network) : run network m = finished disk place
        (operate (ofUrl url) network settings.policy store op code) := by
      rw [run_of_opened hread hload hurl hopen]
      simp only [perform, readCode_eq_ok_iff.mpr hcode]
    have hfails {message : String} (hgate : Workflow.gate op store.get code = .error message) :
        FailsUnasked (run network m) := by
      obtain ⟨htraffic, hwell⟩ := operate_of_error hgate
      exact hrun network ▸ failsUnasked_finished htraffic hwell
    refine ⟨fun hnobody => hfails (Workflow.gate_of_signedOut hnobody), fun hop hempty => ?_,
      fun session hsession hsome => ?_⟩
    · cases hgate : Workflow.gate op store.get code with
      | error message => exact hfails hgate
      | ok session =>
        exact absurd hempty ((Workflow.gate_eq_ok_iff.mp hgate).2.resolve_left hop)
    · rw [funext hrun]
      exact operates_finished hpath network settings.policy
        (Workflow.gate_eq_ok_iff.mpr ⟨hsession, hsome⟩)

/-- For instance, valid code is registered by a second request, and although nobody is there any
more to receive it, the run succeeds. -/
theorem operations_run_compile :
    let user : Identifier := ⟨"a", by decide, by decide⟩
    let entries : Folder := [(recordName, .file (Session.write ⟨user⟩))]
    let m : Machine := ⟨[("CODELAB_BASE_URL", "http://h/"), ("CODELAB_SESSION_DIR", "s")],
      ⟨[("s", .folder entries)], []⟩, ["compile"], Text.toBytes "x", "t"⟩
    let settings : Settings := ⟨some "http://h/", some "s", none, false⟩
    let url : Url := ⟨"http", some ⟨"", "", .name "h", none⟩, .segments [""], none, none⟩
    let valid : Delivery := .answered 200 (Text.toBytes "\x7b\"valid\":true,\"errors\":[]\x7d")
    let network : Network := fun before _ => if before = [] then valid else .unreachable
    let r := run network m
    (read m.arguments = .ok (.operate .compile none) ∧
        Settings.load ⟨m.environment, m.disk, []⟩ = .ok settings ∧ settings.url = .ok url ∧
        IsWeb url.scheme ∧ HoldsCode m m.disk ⟨"x"⟩ none) ∧
      Operates url network .compile user ⟨"x"⟩ (run · m) ∧ r.code = 0 ∧
        r.traffic.map (·.2) = [valid, .unreachable] := by
  intro user entries m settings url valid network r
  have hread : read m.arguments = .ok (.operate .compile none) := rfl
  have hload : Settings.load ⟨m.environment, m.disk, []⟩ = .ok settings := rfl
  have hurl : Url.parse "http://h/" = .ok url := rfl
  have hopen : FileStore.openAt m.disk "s" "t" =
      .ok (m.disk, ["s"], ⟨"s", some entries, "t"⟩) := rfl
  have hget : FileStore.get ⟨"s", some entries, "t"⟩ = .ok (some ⟨user⟩) :=
    FileStore.get_of_session rfl
  obtain ⟨-, hopened⟩ := operations_run hread hload hurl (.inl rfl) network
  obtain ⟨-, hcode⟩ := hopened _ _ _ hopen
  obtain ⟨-, -, hoperates⟩ := hcode ⟨"x"⟩ rfl
  exact ⟨⟨hread, hload, hurl, .inl rfl, rfl⟩, hoperates ⟨user⟩ hget (.inl rfl), by decide +kernel,
    by decide +kernel⟩

/-- A run that is told to analyze code and asked for help gives help, with success, and sends
nothing, whoever is signed in. A run that is told the same and asked for nothing may send the
request for its operation twice, if the first response asks for that. -/
theorem operation_requests_vary :
    let entries : Folder := [(recordName, .file (Session.write ⟨⟨"a", by decide, by decide⟩⟩))]
    let m (words : List String) : Machine :=
      ⟨[("CODELAB_BASE_URL", "http://h/"), ("CODELAB_SESSION_DIR", "s")],
        ⟨[("s", .folder entries)], []⟩, words, Text.toBytes "x", "t"⟩
    let address (host : String) : Url :=
      ⟨"http", some ⟨"", "", .name host, none⟩, .segments ["code", "analyze"], none, none⟩
    let body := "\x7b\"email\":\"a\",\"code\":\"x\"\x7d"
    let network : Network := fun before _ =>
      if before = [] then .located 307 (address "i") []
      else .answered 200 (Text.toBytes "\x7b\"success\":true,\"complexity\":\"O(1)\"\x7d")
    let help := run network (m ["analyze", "--help"])
    let r := run network (m ["analyze"])
    (help.traffic = [] ∧ help.code = 0 ∧
        help.output = (Topic.command (.operate .analyze)).page) ∧
      r.traffic.map (·.1) = [⟨.post, address "h", body⟩, ⟨.post, address "i", body⟩] ∧
      r.code = 0 := by
  intro entries m address body network help r
  have hread : read (m ["analyze", "--help"]).arguments =
      .error (.help (.command (.operate .analyze))) := by decide +kernel
  have hhelp : help = stopped (m ["analyze", "--help"])
      (.help (.command (.operate .analyze))) := by
    show run network _ = _
    rw [run, hread]
  rw [hhelp]
  exact ⟨⟨rfl, rfl, rfl⟩, by decide +kernel, by decide +kernel⟩

end Workbench.CommandLine
