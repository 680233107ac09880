import SapMonitor.Proofs.Markup.Faults
import SapMonitor.Proofs.Remote.Records
import SapMonitor.Remote.Soap
import SapMonitor.Url.Latin

/-!
# Answers of calls

An answer passes through the reader of documents, the search for its body, the check for a
fault of the service, the check of its status and the decoder of its operation.  Each of them
can stop it.  What passes all of them is decoded whole, and an answer with the status of a
failure never does.

Main results:

- `Element.find?_eq`: a search finds the first element with the name in document order.
- `decode_eq_ok_iff`: the answers that are decoded.
- `Access.call_decodesWhole`: what a call makes of an answer with any status.
- `Access.call_reportsFailure`: what a call makes of an answer with the status of a failure.
-/

namespace SapMonitor

/-! ## Document order -/

namespace Markup.Element

mutual

/-- The element and all elements inside it, in document order. -/
def inOrder : Element → List Element
  | mk n t cs => mk n t cs :: inOrderAll cs

/-- The elements of a list of trees, in document order. -/
def inOrderAll : List Element → List Element
  | [] => []
  | c :: cs => c.inOrder ++ inOrderAll cs

end

mutual

/-- A search finds the first element with the name in document order. -/
theorem find?_eq (name : String) :
    (e : Element) → e.find? name = e.inOrder.find? fun c => c.name == name
  | mk n t cs => by
    rw [find?, inOrder, List.find?_cons, name_mk, findIn?_eq name cs]
    cases n == name <;> rfl

/-- A search in trees finds the first element with the name in document order. -/
theorem findIn?_eq (name : String) :
    (es : List Element) → findIn? name es = (inOrderAll es).find? fun c => c.name == name
  | [] => rfl
  | c :: cs => by
    rw [findIn?, inOrderAll, List.find?_append, find?_eq name c, findIn?_eq name cs]

end

end Markup.Element
end SapMonitor

namespace SapMonitor.Remote

open Http (Network Status)
open Markup (Element Malformed)

/-! ## Openings of bodies -/

/-- The first child of the first element called `Body` in document order. -/
def opening? (document : Element) : Option Element :=
  (document.inOrder.find? fun e => e.name == "Body").bind fun body => body.children.head?

/-- The text is a document with a body whose first child is the element. -/
def Opens (text : String) (first : Element) : Prop :=
  ∃ d, document text = .ok d ∧ opening? d = some first

/-- A text opens with one element at most. -/
theorem Opens.unique {text : String} {first first' : Element} (h : Opens text first)
    (h' : Opens text first') : first = first' := by
  obtain ⟨d, hd, hfirst⟩ := h
  obtain ⟨d', hd', hfirst'⟩ := h'
  rw [hd] at hd'
  cases hd'
  rw [hfirst] at hfirst'
  exact Option.some.inj hfirst'

/-- The response of a document with an opening is the opening, unless it is a fault. -/
theorem response_of_opening {d first : Element} (h : opening? d = some first)
    (operation : String) : response d operation =
      if first.name = "Fault" then .error (.fault (first.textAt "faultcode") (faultText first))
      else .ok first := by
  rw [opening?, ← Element.find?_eq, Option.bind_eq_some_iff] at h
  obtain ⟨body, hbody, hhead⟩ := h
  obtain ⟨rest, hchildren⟩ := List.head?_eq_some_iff.1 hhead
  simp only [response, hbody, hchildren]

/-- A document without an opening has no body, or one without children. -/
theorem response_of_no_opening {d : Element} (h : opening? d = none) (operation : String) :
    ∃ text, response d operation = .error (.answer text) := by
  rw [opening?, ← Element.find?_eq, Option.bind_eq_none_iff] at h
  cases hbody : d.find? "Body" with
  | none => exact ⟨_, response_of_no_body hbody operation⟩
  | some body =>
    have hchildren := List.head?_eq_none_iff.1 (h body hbody)
    exact ⟨_, by simp only [response, hbody, hchildren]; rfl⟩

/-- A body without children carries no response. -/
theorem response_of_empty_body {d body : Element}
    (h : (d.inOrder.find? fun e => e.name == "Body") = some body) (hempty : body.children = [])
    (operation : String) :
    response d operation = .error (.answer (operation ++ ": empty SOAP body")) := by
  rw [← Element.find?_eq] at h
  simp only [response, h, hempty]

/-! ## Answers -/

section Answers

variable {α : Type} {o : Operation} {url text : String} {status : Status}
  {read : Element → Outcome α}

/-- A text without an opening, or with a fault as its opening, has no response. -/
theorem openAnswer_eq_ok_iff {first : Element} :
    openAnswer o url status text = .ok first ↔ Opens text first ∧ first.name ≠ "Fault" := by
  unfold openAnswer Opens
  cases hd : document text with
  | error e =>
    have hnone : ¬∃ d, (Except.error e : Outcome Element) = .ok d ∧ opening? d = some first := by
      rintro ⟨d, h, -⟩
      cases h
    simp only [hnone, false_and, iff_false]
    split <;> nofun
  | ok d =>
    simp only [Except.ok.injEq, exists_eq_left']
    cases hopening : opening? d with
    | none =>
      obtain ⟨reason, hreason⟩ := response_of_no_opening hopening o.name
      simp only [hreason, Except.mapError, reduceCtorEq, false_and]
    | some first' =>
      rw [response_of_opening hopening, Option.some.injEq]
      by_cases hfault : first'.name = "Fault"
      · simp only [hfault, if_true, Except.mapError, reduceCtorEq, false_iff, not_and, not_not]
        rintro rfl
        exact hfault
      · simp only [hfault, if_false, Except.mapError, Except.ok.injEq]
        constructor
        · rintro rfl
          exact ⟨rfl, hfault⟩
        · exact And.left

/-- An answer with the status of a failure is an error, whatever it carries. -/
theorem decode_of_failure : decode o url read .internalServerError text =
    (openAnswer o url .internalServerError text).bind fun _ =>
      .error (.http .internalServerError text) := by
  have hne : Status.internalServerError ≠ .ok := by decide
  simp only [decode, hne, decide_false, decide_true, Bool.or_true, if_true, if_false]
  cases openAnswer o url .internalServerError text <;> rfl

/-- The answers that are decoded have the status of success, and open with an element that is
no fault and that can be decoded. -/
theorem decode_eq_ok_iff {v : α} : decode o url read status text = .ok v ↔
    status = .ok ∧ ∃ first, Opens text first ∧ first.name ≠ "Fault" ∧ read first = .ok v := by
  by_cases hok : status = .ok
  · subst hok
    rw [decode_of_ok]
    refine bind_eq_ok_iff.trans ?_
    simp only [openAnswer_eq_ok_iff, and_assoc, true_and]
  · simp only [hok, false_and, iff_false]
    by_cases hfailure : status = .internalServerError
    · subst hfailure
      rw [decode_of_failure]
      cases openAnswer o url .internalServerError text <;> nofun
    · rw [decode_of_other o url read text hok hfailure]
      nofun

/-- An outcome is an error if it is no report. -/
theorem exists_error_of_ne {x : Outcome α} (h : ∀ v, x ≠ .ok v) : ∃ e, x = .error e := by
  cases x with
  | error e => exact ⟨e, rfl⟩
  | ok v => exact absurd rfl (h v)

end Answers

/-! ## Decoded whole or not at all -/

/-- The outcome of an answer with a status and a text is its whole report or an error. -/
structure DecodesWhole (o : Operation) (status : Status) (text : String)
    (outcome : Outcome o.Answer) : Prop where
  /-- The outcome is a report exactly if the status is that of success, and the text opens
  with an element that is no fault and that is decoded to the report. -/
  ok_iff : ∀ v, outcome = .ok v ↔
    status = .ok ∧ ∃ first, Opens text first ∧ first.name ≠ "Fault" ∧ o.read first = .ok v
  /-- A report that is a list has one record for every item of the response, in their order,
  and it shows the fields of the item. -/
  listed : ∀ v, outcome = .ok v → ∀ k rs, o.listed? v = some ⟨k, rs⟩ →
    ∃ first, Opens text first ∧
      List.Forall₂ (fun item r => ∀ f ∈ k.fields r, f.2.ShownIn item f.1)
        (first.items k.list) rs
  /-- Another status is an error. -/
  status : status ≠ .ok → ∃ e, outcome = .error e
  /-- A fault of the service is an error. -/
  fault : ∀ first, Opens text first → first.name = "Fault" → ∃ e, outcome = .error e
  /-- A fault of the markup is an error, wherever in the text it is. -/
  malformed : Malformed text.toList → ∃ e, outcome = .error e
  /-- A single number field that is not blank and holds no number of its kind is an error. -/
  number : ∀ first, Opens text first → ∀ f ∈ o.numbers first,
    numberText f.place f.name ≠ "" →
    f.format.reads (numberText f.place f.name).toList = false → ∃ e, outcome = .error e

/-- A text with a fault of the markup opens with nothing. -/
theorem not_opens_of_malformed {text : String} (h : Malformed text.toList) (first : Element) :
    ¬Opens text first := by
  rintro ⟨d, hd, -⟩
  obtain ⟨cause, hcause, -⟩ := Markup.malformed_iff.1 h
  rw [document, hcause] at hd
  cases hd

theorem decode_decodesWhole (o : Operation) (url : String) (status : Status) (text : String) :
    DecodesWhole o status text (decode o url o.read status text) where
  ok_iff v := decode_eq_ok_iff
  listed := by
    intro v hv k rs hlisted
    obtain ⟨-, first, hfirst, -, hread⟩ := decode_eq_ok_iff.1 hv
    exact ⟨first, hfirst, ListKind.read_eq_ok_iff.1 (Operation.read_listed hread hlisted)⟩
  status hne := exists_error_of_ne fun v hv => hne (decode_eq_ok_iff.1 hv).1
  fault := by
    intro first hfirst hfault
    refine exists_error_of_ne fun v hv => ?_
    obtain ⟨-, first', hfirst', hne, -⟩ := decode_eq_ok_iff.1 hv
    exact hne (hfirst'.unique hfirst ▸ hfault)
  malformed := by
    intro h
    refine exists_error_of_ne fun v hv => ?_
    obtain ⟨-, first, hfirst, -⟩ := decode_eq_ok_iff.1 hv
    exact not_opens_of_malformed h first hfirst
  number := by
    intro first hfirst f hf hfilled hbad
    refine exists_error_of_ne fun v hv => ?_
    obtain ⟨-, first', hfirst', -, hread⟩ := decode_eq_ok_iff.1 hv
    obtain rfl := hfirst'.unique hfirst
    have hreadable := Operation.exists_read_iff.1 ⟨v, hread⟩ f hf
    rcases hreadable with hblank | hreads
    · exact hfilled hblank
    · rw [hbad] at hreads
      cases hreads

/-! ## Failures -/

/-- The outcome of an answer with the status of a failure is the fault of the service that it
carries, or an error with its status, unless it is a document without an opening. -/
structure ReportsFailure {α : Type} (o : Operation) (url text : String) (outcome : Outcome α) :
    Prop where
  /-- A fault of the service is reported with its code and its text, within the operation. -/
  fault : ∀ first, Opens text first → first.name = "Fault" → outcome =
    .error (.within (target o url) (.fault (first.textAt "faultcode") (faultText first)))
  /-- A text that is no document is reported by its status. -/
  unreadable : ∀ e, document text = .error e →
    outcome = .error (.http .internalServerError text)
  /-- Another response is reported by its status. -/
  response : ∀ first, Opens text first → first.name ≠ "Fault" →
    outcome = .error (.http .internalServerError text)
  /-- A document without a body is reported as such. -/
  noBody : ∀ d, document text = .ok d → (∀ e ∈ d.inOrder, e.name ≠ "Body") →
    outcome = .error (.within (target o url) (.answer (o.name ++ ": no SOAP body")))
  /-- An empty body is reported as such. -/
  emptyBody : ∀ d body, document text = .ok d →
    (d.inOrder.find? fun e => e.name == "Body") = some body → body.children = [] →
    outcome = .error (.within (target o url) (.answer (o.name ++ ": empty SOAP body")))
  /-- The status is reported exactly if the text is no document, or opens with another
  response than a fault. -/
  status_iff : (∃ shown, outcome = .error (.http .internalServerError shown)) ↔
    (∃ e, document text = .error e) ∨ ∃ first, Opens text first ∧ first.name ≠ "Fault"

section Failures

variable {α : Type} (o : Operation) (url : String) (read : Element → Outcome α)

/-- A text that is no document is reported by its status. -/
theorem decode_of_unreadable {text : String} {e : RemoteError} (h : document text = .error e) :
    decode o url read .internalServerError text = .error (.http .internalServerError text) := by
  have hne : Status.internalServerError ≠ .ok := by decide
  simp only [decode_of_failure, openAnswer, h, hne, if_false, Except.bind]

/-- A document is reported by what is wrong with its response, or by its status. -/
theorem decode_of_document {text : String} {d : Element} (h : document text = .ok d) :
    decode o url read .internalServerError text =
      ((response d o.name).mapError (.within (target o url))).bind fun _ =>
        .error (.http .internalServerError text) := by
  simp only [decode_of_failure, openAnswer, h]

/-- A document that opens with an element is reported by that element if it is a fault, and by
its status if it is not. -/
theorem decode_of_opening {text : String} {first : Element} (h : Opens text first) :
    decode o url read .internalServerError text = .error
      (if first.name = "Fault" then
        .within (target o url) (.fault (first.textAt "faultcode") (faultText first))
      else .http .internalServerError text) := by
  obtain ⟨d, hd, hfirst⟩ := h
  rw [decode_of_document o url read hd, response_of_opening hfirst]
  by_cases hfault : first.name = "Fault"
  · simp only [hfault, if_true, Except.mapError, Except.bind]
  · simp only [hfault, if_false, Except.mapError, Except.bind]

/-- A document that opens with nothing is reported by what is missing. -/
theorem decode_of_no_opening {text : String} {d : Element} (hd : document text = .ok d)
    (h : opening? d = none) : ∃ reason, decode o url read .internalServerError text =
      .error (.within (target o url) (.answer reason)) := by
  obtain ⟨reason, hreason⟩ := response_of_no_opening h o.name
  refine ⟨reason, ?_⟩
  rw [decode_of_document o url read hd, hreason]
  rfl

/-- The status is reported exactly if the text is no document, or opens with another response
than a fault. -/
theorem exists_decode_eq_http_iff (text : String) :
    (∃ shown, decode o url read .internalServerError text =
      .error (.http .internalServerError shown)) ↔
    (∃ e, document text = .error e) ∨ ∃ first, Opens text first ∧ first.name ≠ "Fault" := by
  constructor
  · rintro ⟨shown, hshown⟩
    cases hd : document text with
    | error e => exact .inl ⟨e, rfl⟩
    | ok d =>
      cases hopening : opening? d with
      | none =>
        obtain ⟨reason, hreason⟩ := decode_of_no_opening o url read hd hopening
        rw [hreason] at hshown
        cases hshown
      | some first =>
        have hopens : Opens text first := ⟨d, hd, hopening⟩
        refine .inr ⟨first, hopens, fun hfault => ?_⟩
        rw [decode_of_opening o url read hopens, if_pos hfault] at hshown
        cases hshown
  · rintro (⟨e, he⟩ | ⟨first, hopens, hne⟩)
    · exact ⟨text, decode_of_unreadable o url read he⟩
    · exact ⟨text, by rw [decode_of_opening o url read hopens, if_neg hne]⟩

/-- An answer with the status of a failure is reported as one. -/
theorem decode_reportsFailure (text : String) :
    ReportsFailure o url text (decode o url read .internalServerError text) where
  fault _ hopens hfault := by
    rw [decode_of_opening o url read hopens, if_pos hfault]
  unreadable _ he := decode_of_unreadable o url read he
  response _ hopens hne := by
    rw [decode_of_opening o url read hopens, if_neg hne]
  noBody := by
    intro d hd hnone
    have hfind : d.find? "Body" = none := by
      rw [Element.find?_eq, List.find?_eq_none]
      intro e he
      simpa using hnone e he
    rw [decode_of_document o url read hd, response_of_no_body hfind]
    rfl
  emptyBody := by
    intro d body hd hbody hempty
    rw [decode_of_document o url read hd, response_of_empty_body hbody hempty]
    rfl
  status_iff := exists_decode_eq_http_iff o url read text

end Failures

/-! ## Calls -/

namespace Access

variable {σ : Type}

/-- The questions of the service are calls that read the reports of their operations. -/
theorem service_eq (a : Access) (n : Network σ) : a.service n =
    { systemInstances := fun d => tryEach
        (fun url => a.call n d url .systemInstances [("timeout", "0")]
          Operation.systemInstances.read) d [] (a.accessPoints.map (a.base ++ ·))
      properties := fun d endpoint => some <$>
        a.call n d (a.urlAt endpoint) .properties [] Operation.properties.read
      processes := fun d endpoint =>
        a.call n d (a.urlAt endpoint) .processes [] Operation.processes.read
      queues := fun d endpoint => a.call n d (a.urlAt endpoint) .queues [] Operation.queues.read
      alerts := fun d endpoint => a.call n d (a.urlAt endpoint) .alerts [] Operation.alerts.read
      workProcesses := fun d endpoint =>
        a.call n d (a.urlAt endpoint) .workProcesses [] Operation.workProcesses.read
      lockStatistic := fun d endpoint =>
        a.call n d (a.urlAt endpoint) .lockStatistic [] Operation.lockStatistic.read } :=
  rfl

variable {a : Access} {n : Network σ} {d : Deadline} {url : String} {o : Operation}
  {params : List (String × String)} {w w' : World σ} {status : Status} {text : String}

/-- A call decodes the answer that it gets. -/
theorem call_of_answer {α : Type} (read : Element → Outcome α)
    (h : n.post (a.post url o params (d.remaining w.clock)) w = (.ok ⟨status, .ok text⟩, w')) :
    a.call n d url o params read w = (decode o url read status text, w') := by
  simp only [call, bind, StateT.bind, Work.now_run, h]
  rfl

/-- Whatever answer a call gets, it is decoded whole or not at all. -/
theorem call_decodesWhole
    (h : n.post (a.post url o params (d.remaining w.clock)) w = (.ok ⟨status, .ok text⟩, w')) :
    DecodesWhole o status text (a.call n d url o params o.read w).1 := by
  rw [call_of_answer o.read h]
  exact decode_decodesWhole o url status text

/-- An answer with the status of a failure is reported as one, by every operation. -/
theorem call_reportsFailure
    (h : n.post (a.post url o params (d.remaining w.clock)) w =
      (.ok ⟨.internalServerError, .ok text⟩, w')) :
    ReportsFailure o url text (a.call n d url o params o.read w).1 := by
  rw [call_of_answer o.read h]
  exact decode_reportsFailure o url o.read text

end Access

/-! ### Examples -/

/-- A network that gives one answer to all requests. -/
def answering (status : Status) (text : String) : Network Unit :=
  { idna := .latin, exchange := fun _ _ => return .answered status text }

/-- The access to instances without credentials. -/
def plainAccess : Access :=
  { base := "http://sap:50013", accessPoint := "/sap/bc/soap/rfc", credentials := none }

/-- The access point of an instance. -/
def plainUrl : String :=
  "http://sap:50013/sap/bc/soap/rfc"

/-- The world before any call. -/
def idleWorld : World Unit :=
  { clock := 0, journal := [], peer := () }

/-- The minute that follows. -/
def nextMinute : Deadline :=
  ⟨60000000000⟩

/-- The outcome of a call for the processes of an instance. -/
def processesFrom (status : Status) (text : String) : Outcome (List OsProcess) :=
  (plainAccess.call (answering status text) nextMinute plainUrl .processes []
    Operation.processes.read idleWorld).1

theorem post_answering (status : Status) (text : String) :
    (answering status text).post (plainAccess.post plainUrl .processes []
      (nextMinute.remaining idleWorld.clock)) idleWorld = (.ok ⟨status, .ok text⟩, idleWorld) :=
  rfl

theorem processesFrom_eq (status : Status) (text : String) : processesFrom status text =
    decode .processes plainUrl Operation.processes.read status text := by
  rw [processesFrom, Access.call_of_answer _ (post_answering status text)]

/-- A response with a process, and one whose number is none. -/
def brokenProcess : String :=
  "<e><Body><r><process><item><pid>7</pid></item>" ++
    "<item><pid>7x</pid></item></process></r></Body></e>"

theorem call_decodesWhole_broken :
    (answering .ok brokenProcess).post (plainAccess.post plainUrl .processes []
      (nextMinute.remaining idleWorld.clock)) idleWorld =
        (.ok ⟨.ok, .ok brokenProcess⟩, idleWorld) ∧
    DecodesWhole .processes .ok brokenProcess (processesFrom .ok brokenProcess) :=
  ⟨post_answering _ _, Access.call_decodesWhole (post_answering _ _)⟩

/-- A response with a process whose number is a blank character. -/
def blankProcess : String :=
  "<e><Body><r><process><item><pid>&#160;</pid></item></process></r></Body></e>"

set_option maxRecDepth 8000 in
theorem document_blankProcess : document blankProcess = .ok (.mk "e" "" [.mk "Body" ""
    [.mk "r" "" [.mk "process" "" [.mk "item" "" [.mk "pid" "\u00a0" []]]]]]) := by
  rfl

/-- A number field with nothing but white space in it is no number, but it counts as zero. -/
theorem blank_number_read :
    (∃ item, Opens blankProcess (.mk "r" "" [.mk "process" "" [item]]) ∧ item.name = "item" ∧
      item.textAt "pid" ≠ "" ∧ Decimal.read? .int32 (item.textAt "pid").toList = none) ∧
    processesFrom .ok blankProcess = .ok [{ pid := 0 }] := by
  have hopens : Opens blankProcess
      (.mk "r" "" [.mk "process" "" [.mk "item" "" [.mk "pid" "\u00a0" []]]]) :=
    ⟨_, document_blankProcess, rfl⟩
  refine ⟨⟨_, hopens, rfl, by decide, by decide⟩, ?_⟩
  rw [processesFrom_eq]
  exact decode_eq_ok_iff.2 ⟨rfl, _, hopens, by decide, rfl⟩

/-- A fault of the service. -/
def faultyAnswer : String :=
  "<e><Body><Fault><faultcode>Client</faultcode>" ++
    "<detail><message>denied</message></detail></Fault></Body></e>"

set_option maxRecDepth 8000 in
theorem document_faultyAnswer : document faultyAnswer = .ok (.mk "e" "" [.mk "Body" ""
    [.mk "Fault" "" [.mk "faultcode" "Client" [],
      .mk "detail" "" [.mk "message" "denied" []]]]]) := by
  rfl

theorem call_reportsFailure_denied :
    (answering .internalServerError faultyAnswer).post (plainAccess.post plainUrl .processes []
      (nextMinute.remaining idleWorld.clock)) idleWorld =
        (.ok ⟨.internalServerError, .ok faultyAnswer⟩, idleWorld) ∧
    ReportsFailure .processes plainUrl faultyAnswer
      (processesFrom .internalServerError faultyAnswer) ∧
    processesFrom .internalServerError faultyAnswer =
      .error (.within (target .processes plainUrl) (.fault "Client" "denied")) := by
  have hreported : ReportsFailure .processes plainUrl faultyAnswer
      (processesFrom .internalServerError faultyAnswer) :=
    Access.call_reportsFailure (post_answering _ _)
  exact ⟨post_answering _ _, hreported,
    hreported.fault _ ⟨_, document_faultyAnswer, rfl⟩ rfl⟩

/-- A page of a server in between. -/
def errorPage : String :=
  "<html><body>Internal Server Error</body></html>"

set_option maxRecDepth 8000 in
theorem document_errorPage : document errorPage =
    .ok (.mk "html" "" [.mk "body" "Internal Server Error" []]) := by
  rfl

/-- The status of a page that is well-formed and no envelope is not reported. -/
theorem status_of_page_lost : processesFrom .internalServerError errorPage =
    .error (.within (target .processes plainUrl) (.answer "GetProcessList: no SOAP body")) := by
  rw [processesFrom_eq, decode_of_document _ _ _ document_errorPage]
  rfl

end SapMonitor.Remote
