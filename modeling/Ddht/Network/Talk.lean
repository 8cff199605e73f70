import Ddht.Network.Bond

/-!
# TALK requests

`add_talk_protocol`, `_handle_unhandled_talk_requests` and `talk`. A protocol is its id, and
`client.talk` the TALKRESP payload it returns or the exception it raises.
-/

namespace Ddht

/-- The exceptions of the TALK API. -/
inductive TalkError where
  /-- An exception of `endpoint_for_node_id` or `client.talk`. -/
  | net (e : NetError)
  /-- `DuplicateProtocol`, raised by `add_talk_protocol`. -/
  | duplicateProtocol
  /-- `ProtocolNotSupported(protocol)`, raised by `talk`. -/
  | protocolNotSupported (protocol : List UInt8)
  deriving DecidableEq, Repr

/-- What `_handle_unhandled_talk_requests` reads of an inbound TALKREQ. -/
structure TalkRequest where
  senderNodeId : NodeId
  senderEndpoint : Endpoint
  protocol : List UInt8
  requestId : List UInt8
  deriving DecidableEq, Repr

/-- The arguments of `send_talk_response(node_id, endpoint, payload=..., request_id=...)`. -/
structure TalkResponse where
  nodeId : NodeId
  endpoint : Endpoint
  payload : List UInt8
  requestId : List UInt8
  deriving DecidableEq, Repr

/-- What reaches the TALK part of a `Network`. -/
inductive TalkEvent where
  /-- `add_talk_protocol` for a protocol with this id. -/
  | addTalkProtocol (protocolId : List UInt8)
  /-- A TALKREQ read by `_handle_unhandled_talk_requests`. -/
  | request (request : TalkRequest)
  deriving DecidableEq, Repr

/-- `_talk_protocols`' ids in order, and the TALKRESPs `_handle_unhandled_talk_requests` sent. -/
structure TalkState where
  talkProtocols : List (List UInt8)
  responses : List TalkResponse
  deriving DecidableEq, Repr

namespace Network

/-- `add_talk_protocol(protocol)`. -/
def addTalkProtocol (talkProtocols : List (List UInt8)) (protocolId : List UInt8) :
    Except TalkError (List (List UInt8)) :=
  if protocolId ∈ talkProtocols then .error .duplicateProtocol
  else .ok (talkProtocols ++ [protocolId])

/-- One request of `_handle_unhandled_talk_requests`: the TALKRESP it sends, if any. -/
def handleUnhandledTalkRequest (talkProtocols : List (List UInt8)) (request : TalkRequest) :
    Option TalkResponse :=
  if request.protocol ∈ talkProtocols then none
  else some ⟨request.senderNodeId, request.senderEndpoint, [], request.requestId⟩

/-- The end of `talk`: an empty payload is `ProtocolNotSupported(protocol)`. -/
def talkResponse (protocol : List UInt8) : Except NetError (List UInt8) → Except TalkError (List UInt8)
  | .ok payload => if payload = [] then .error (.protocolNotSupported protocol) else .ok payload
  | .error e => .error (.net e)

variable (remote : Remote)

/-- `talk(node_id, protocol=protocol, payload=payload, endpoint=endpoint, request_id=requestId)`,
where `clientTalk` gives what `client.talk` returns. -/
def talk (clientTalk : NodeId → Endpoint → List UInt8 → List UInt8 → Option (List UInt8) →
      Except NetError (List UInt8))
    (net : Network) (nodeId : NodeId) (protocol payload : List UInt8) (endpoint : Option Endpoint)
    (requestId : Option (List UInt8)) : Except TalkError (List UInt8) × Network :=
  match endpoint with
  | some ep => (talkResponse protocol (clientTalk nodeId ep protocol payload requestId), net)
  | none =>
    match endpointForNodeId remote net nodeId with
    | (.ok ep, net') => (talkResponse protocol (clientTalk nodeId ep protocol payload requestId), net')
    | (.error e, net') => (.error (.net e), net')

end Network

namespace TalkState

/-- One event. A registration that raises `DuplicateProtocol` changes nothing. -/
def step (s : TalkState) : TalkEvent → TalkState
  | .addTalkProtocol p =>
    match Network.addTalkProtocol s.talkProtocols p with
    | .ok talkProtocols => { s with talkProtocols := talkProtocols }
    | .error _ => s
  | .request r =>
    match Network.handleUnhandledTalkRequest s.talkProtocols r with
    | some response => { s with responses := s.responses ++ [response] }
    | none => s

/-- A run of events. -/
def run (s : TalkState) (events : List TalkEvent) : TalkState := events.foldl step s

@[simp] theorem run_nil (s : TalkState) : s.run [] = s := rfl

@[simp] theorem run_cons (s : TalkState) (e : TalkEvent) (es : List TalkEvent) :
    s.run (e :: es) = (s.step e).run es := rfl

section Step

variable {s : TalkState} {p : List UInt8} {r : TalkRequest}

theorem step_addTalkProtocol_of_mem (h : p ∈ s.talkProtocols) :
    s.step (.addTalkProtocol p) = s := by
  simp only [step, Network.addTalkProtocol, if_pos h]

theorem step_addTalkProtocol_of_not_mem (h : p ∉ s.talkProtocols) :
    s.step (.addTalkProtocol p) = { s with talkProtocols := s.talkProtocols ++ [p] } := by
  simp only [step, Network.addTalkProtocol, if_neg h]

theorem step_request_of_mem (h : r.protocol ∈ s.talkProtocols) : s.step (.request r) = s := by
  simp only [step, Network.handleUnhandledTalkRequest, if_pos h]

theorem step_request_of_not_mem (h : r.protocol ∉ s.talkProtocols) :
    s.step (.request r) = { s with responses :=
      s.responses ++ [⟨r.senderNodeId, r.senderEndpoint, [], r.requestId⟩] } := by
  simp only [step, Network.handleUnhandledTalkRequest, if_neg h]

@[simp] theorem step_request_talkProtocols : (s.step (.request r)).talkProtocols = s.talkProtocols := by
  by_cases h : r.protocol ∈ s.talkProtocols
  · rw [step_request_of_mem h]
  · rw [step_request_of_not_mem h]

theorem nodup_step (h : s.talkProtocols.Nodup) (e : TalkEvent) : (s.step e).talkProtocols.Nodup := by
  cases e with
  | addTalkProtocol p =>
    by_cases hp : p ∈ s.talkProtocols
    · rwa [step_addTalkProtocol_of_mem hp]
    · rw [step_addTalkProtocol_of_not_mem hp]
      exact h.append (List.nodup_singleton p) (List.disjoint_singleton.mpr hp)
  | request r => rwa [step_request_talkProtocols]

theorem mem_step_talkProtocols {e : TalkEvent} :
    p ∈ (s.step e).talkProtocols ↔ p ∈ s.talkProtocols ∨ e = .addTalkProtocol p := by
  cases e with
  | addTalkProtocol q =>
    by_cases hq : q ∈ s.talkProtocols
    · rw [step_addTalkProtocol_of_mem hq, TalkEvent.addTalkProtocol.injEq]
      exact ⟨.inl, fun h => h.elim id fun he => he ▸ hq⟩
    · simp [step_addTalkProtocol_of_not_mem hq, eq_comm]
  | request r => simp

theorem mem_step_responses {e : TalkEvent} {resp : TalkResponse} :
    resp ∈ (s.step e).responses ↔ resp ∈ s.responses ∨
      ∃ r, e = .request r ∧ r.protocol ∉ s.talkProtocols ∧
        resp = ⟨r.senderNodeId, r.senderEndpoint, [], r.requestId⟩ := by
  cases e with
  | addTalkProtocol q =>
    by_cases hq : q ∈ s.talkProtocols
    · simp [step_addTalkProtocol_of_mem hq]
    · simp [step_addTalkProtocol_of_not_mem hq]
  | request r =>
    by_cases hr : r.protocol ∈ s.talkProtocols
    · simp [step_request_of_mem hr, hr]
    · simp [step_request_of_not_mem hr, hr]

end Step

theorem nodup_run : ∀ {s : TalkState} (es : List TalkEvent), s.talkProtocols.Nodup →
    (s.run es).talkProtocols.Nodup
  | _, [], h => h
  | _, e :: es, h => nodup_run es (nodup_step h e)

/-- A protocol is registered after a run iff it was before or the run registered it. -/
theorem mem_run_talkProtocols {p : List UInt8} : ∀ (s : TalkState) (es : List TalkEvent),
    p ∈ (s.run es).talkProtocols ↔ p ∈ s.talkProtocols ∨ .addTalkProtocol p ∈ es
  | s, [] => by simp
  | s, e :: es => by
    rw [run_cons, mem_run_talkProtocols, mem_step_talkProtocols, List.mem_cons, or_assoc,
      @eq_comm _ e]

/-- The handler's answers after a run: those sent before, and one for each TALKREQ of the run
whose protocol was not registered when it came. -/
theorem mem_run_responses {resp : TalkResponse} : ∀ (s : TalkState) (es : List TalkEvent),
    resp ∈ (s.run es).responses ↔ resp ∈ s.responses ∨
      ∃ pre r post, es = pre ++ .request r :: post ∧ r.protocol ∉ (s.run pre).talkProtocols ∧
        resp = ⟨r.senderNodeId, r.senderEndpoint, [], r.requestId⟩
  | s, [] => by simp
  | s, e :: es => by
    rw [run_cons, mem_run_responses (s.step e) es]
    constructor
    · rintro (h | ⟨pre, r, post, rfl, hr, rfl⟩)
      · rcases mem_step_responses.mp h with h | ⟨r, rfl, hr, rfl⟩
        · exact .inl h
        · exact .inr ⟨[], r, es, rfl, hr, rfl⟩
      · exact .inr ⟨e :: pre, r, post, rfl, hr, rfl⟩
    · rintro (h | ⟨_ | ⟨e', pre⟩, r, post, heq, hr, rfl⟩)
      · exact .inl (mem_step_responses.mpr (.inl h))
      · obtain ⟨rfl, rfl⟩ := List.cons.inj heq
        exact .inl (mem_step_responses.mpr (.inr ⟨r, rfl, hr, rfl⟩))
      · obtain ⟨rfl, rfl⟩ := List.cons.inj heq
        exact .inr ⟨pre, r, post, rfl, hr, rfl⟩

/-- Over any run from `Network.__init__`, each protocol some `add_talk_protocol` named is
registered once, and an empty TALKRESP answers, under its request id, exactly each TALKREQ whose
protocol no earlier registration named. -/
theorem talkState_run_spec (es : List TalkEvent) :
    (run ⟨[], []⟩ es).talkProtocols.Nodup ∧
      (∀ p, p ∈ (run ⟨[], []⟩ es).talkProtocols ↔ .addTalkProtocol p ∈ es) ∧
      ∀ resp, resp ∈ (run ⟨[], []⟩ es).responses ↔
        ∃ pre r post, es = pre ++ .request r :: post ∧ .addTalkProtocol r.protocol ∉ pre ∧
          resp = ⟨r.senderNodeId, r.senderEndpoint, [], r.requestId⟩ := by
  refine ⟨nodup_run es List.nodup_nil, fun p => by simp [mem_run_talkProtocols], fun resp => ?_⟩
  simp only [mem_run_responses, mem_run_talkProtocols, List.not_mem_nil, false_or]

example : (run ⟨[], []⟩ [.addTalkProtocol [1], .request ⟨0#256, ⟨.int 0, .int 0⟩, [1], [7]⟩,
    .request ⟨0#256, ⟨.int 0, .int 0⟩, [2], [8]⟩]).responses =
      [⟨0#256, ⟨.int 0, .int 0⟩, [], [8]⟩] := by decide

end TalkState

namespace Network

theorem talkResponse_ok {protocol response : List UInt8} {r : Except NetError (List UInt8)}
    (h : talkResponse protocol r = .ok response) : response ≠ [] ∧ r = .ok response := by
  cases r with
  | error e => cases h
  | ok payload =>
    simp only [talkResponse] at h
    split_ifs at h with hp
    cases h
    exact ⟨hp, rfl⟩

theorem talkResponse_protocolNotSupported {protocol q : List UInt8}
    {r : Except NetError (List UInt8)}
    (h : talkResponse protocol r = .error (.protocolNotSupported q)) : q = protocol ∧ r = .ok [] := by
  cases r with
  | error e => cases h
  | ok payload =>
    simp only [talkResponse] at h
    split_ifs at h with hp
    cases h
    exact ⟨rfl, hp ▸ rfl⟩

variable (remote : Remote)
  (clientTalk : NodeId → Endpoint → List UInt8 → List UInt8 → Option (List UInt8) →
    Except NetError (List UInt8))

theorem talk_storesOnly (net : Network) (nodeId : NodeId) (protocol payload : List UInt8)
    (endpoint : Option Endpoint) (requestId : Option (List UInt8)) :
    StoresOnly net (talk remote clientTalk net nodeId protocol payload endpoint requestId).2 := by
  unfold talk; split
  · exact .refl net
  · split <;> rename_i heq <;> simpa [heq] using endpointForNodeId_storesOnly remote net nodeId

/-- Whatever `talk` ends with came from `client.talk` at some endpoint, or from finding one. -/
theorem talk_cases (net : Network) (nodeId : NodeId) (protocol payload : List UInt8)
    (endpoint : Option Endpoint) (requestId : Option (List UInt8)) :
    (∃ e, (talk remote clientTalk net nodeId protocol payload endpoint requestId).1 = .error (.net e)) ∨
      ∃ ep, (talk remote clientTalk net nodeId protocol payload endpoint requestId).1 =
        talkResponse protocol (clientTalk nodeId ep protocol payload requestId) := by
  unfold talk; split
  · exact .inr ⟨_, rfl⟩
  · split
    · exact .inr ⟨_, rfl⟩
    · exact .inl ⟨_, rfl⟩

/-- `talk` never returns an empty payload, raises `ProtocolNotSupported` only for its own
protocol and only on an empty TALKRESP, and writes nothing but ENRs. -/
theorem talk_spec (net : Network) (nodeId : NodeId) (protocol payload : List UInt8)
    (endpoint : Option Endpoint) (requestId : Option (List UInt8)) :
    StoresOnly net (talk remote clientTalk net nodeId protocol payload endpoint requestId).2 ∧
      (∀ response,
        (talk remote clientTalk net nodeId protocol payload endpoint requestId).1 = .ok response →
          response ≠ [] ∧ ∃ ep, clientTalk nodeId ep protocol payload requestId = .ok response) ∧
      ∀ q, (talk remote clientTalk net nodeId protocol payload endpoint requestId).1 =
          .error (.protocolNotSupported q) →
        q = protocol ∧ ∃ ep, clientTalk nodeId ep protocol payload requestId = .ok [] := by
  refine ⟨talk_storesOnly remote clientTalk net nodeId protocol payload endpoint requestId,
    fun response h => ?_, fun q h => ?_⟩ <;>
  rcases talk_cases remote clientTalk net nodeId protocol payload endpoint requestId with
    ⟨e, he⟩ | ⟨ep, hep⟩
  · rw [he] at h; cases h
  · obtain ⟨hne, hc⟩ := talkResponse_ok (hep ▸ h)
    exact ⟨hne, ep, hc⟩
  · rw [he] at h; cases h
  · obtain ⟨rfl, hc⟩ := talkResponse_protocolNotSupported (hep ▸ h)
    exact ⟨rfl, ep, hc⟩

end Network

end Ddht
