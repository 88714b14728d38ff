/-
Module: DeviceWifi.Proofs.Commands
Layer: Proofs
Purpose: Every request is answered once, in order. One dispatch adds one response, the one its request
  should get, and moves the cluster servers as the request asks; a sequence of requests follows by
  induction. The configuration and the dispatcher agree on every served cluster but one, so a command
  the configuration accepts is never answered as unsupported.
Imports: Mathlib.Data.List.Forall2, DeviceWifi.Spec.Commands
Trusted boundary: none (fully proved)
Main exports: dispatch_answers, dispatchAll_answers, accepted_iff_dispatched, requests_answered
Open obligations: none
-/
import Mathlib.Data.List.Forall2
import DeviceWifi.Spec.Commands

namespace DeviceWifi

/-! ### One request -/

section Dispatch

variable {Servers Tlv Data Payload : Type} {sdk : ClusterServers Servers Tlv Data Payload}

/-- A lookup takes the first case or goes on behind it, like a switch. -/
theorem elim_lookup_cons {β : Type} (id key : UInt32) (cases : CommandCases)
    (rest : List (UInt32 × CommandCases)) (fallback : β) (dispatch : CommandCases → β) :
    (((key, cases) :: rest).lookup id).elim fallback dispatch =
      if id = key then dispatch cases else (rest.lookup id).elim fallback dispatch := by
  rw [List.lookup_cons]
  by_cases same : id = key
  · rw [if_pos same, beq_iff_eq.mpr same]
    rfl
  · rw [if_neg same, beq_eq_false_iff_ne.mpr same]

/-- The dispatcher's switch is the lookup of the cluster. -/
theorem dispatchSingleClusterCommand_eq (path : ConcreteCommandPath) (reader : Tlv) :
    (dispatchSingleClusterCommand sdk path reader : StateM (Dispatching Servers Payload) Unit) =
      (dispatchedClusters.lookup path.clusterId).elim (addStatus path .unsupportedCluster)
        fun cases => dispatchServerCommand cases sdk path reader := by
  unfold dispatchedClusters
  simp only [elim_lookup_cons]
  rfl

@[simp] theorem run_addStatus (path : ConcreteCommandPath) (status : Status)
    (s : Dispatching Servers Payload) :
    (addStatus path status).run s =
      pure ((), { s with commandObj := s.commandObj ++ [⟨path, .status status⟩] }) := rfl

@[simp] theorem run_runCallback (command : ServerCommand) (path : ConcreteCommandPath)
    (commandData : Data) (s : Dispatching Servers Payload) :
    (runCallback sdk command path commandData).run s =
      pure ((sdk.callback command path commandData s.servers).1,
        ⟨s.commandObj ++ (sdk.callback command path commandData s.servers).2.1,
          (sdk.callback command path commandData s.servers).2.2⟩) := rfl

/-- What `DispatchServerCommand` leaves, case by case. -/
theorem after_dispatchServerCommand (cases : CommandCases) (path : ConcreteCommandPath)
    (dataTlv : Tlv) (s : Dispatching Servers Payload) :
    s.after (dispatchServerCommand cases sdk path dataTlv) =
      match cases.lookup path.commandId with
      | none => { s with commandObj := s.commandObj ++ [⟨path, .status .unsupportedCommand⟩] }
      | some command =>
          if (sdk.decode command dataTlv).1 = chipNoError then
            match sdk.callback command path (sdk.decode command dataTlv).2 s.servers with
            | (true, responses, servers) => ⟨s.commandObj ++ responses, servers⟩
            | (false, responses, servers) =>
                ⟨s.commandObj ++ responses ++ [⟨path, .status .invalidCommand⟩], servers⟩
          else { s with commandObj := s.commandObj ++ [⟨path, .status .invalidCommand⟩] } := by
  unfold Dispatching.after dispatchServerCommand
  cases cases.lookup path.commandId with
  | none => rfl
  | some command =>
      rcases decodes : sdk.decode command dataTlv with ⟨error, commandData⟩
      by_cases decoded : error = chipNoError
      · rcases answers : sdk.callback command path commandData s.servers with
          ⟨wasHandled, responses, servers⟩
        cases wasHandled <;> simp [decodes, decoded, answers]
      · simp [decodes, decoded, Ne.symm decoded]

/-- One dispatch answers its request once, and serves it. -/
theorem dispatch_answers (responds : sdk.Responds) (request : CommandRequest Tlv)
    (s : Dispatching Servers Payload) :
    ∃ response, request.AnsweredBy sdk s.servers response ∧
      s.after (dispatchSingleClusterCommand sdk request.path request.data) =
        ⟨s.commandObj ++ [response], request.serve sdk s.servers⟩ := by
  rw [dispatchSingleClusterCommand_eq]
  unfold CommandRequest.AnsweredBy CommandRequest.serve dispatched?
  cases dispatchedClusters.lookup request.path.clusterId with
  | none => exact ⟨⟨request.path, .status .unsupportedCluster⟩, ⟨rfl, rfl⟩, rfl⟩
  | some cases =>
      simp only [Option.elim_some, after_dispatchServerCommand, Option.bind_some]
      cases cases.lookup request.path.commandId with
      | none => exact ⟨⟨request.path, .status .unsupportedCommand⟩, ⟨rfl, rfl⟩, rfl⟩
      | some command =>
          rcases decodes : sdk.decode command request.data with ⟨error, commandData⟩
          by_cases decoded : error = chipNoError
          · simp only [decodes, decoded, if_true]
            have contract := responds command request.path commandData s.servers
            rcases answers : sdk.callback command request.path commandData s.servers with
              ⟨_ | _, responses, servers⟩
            · -- the callback did not handle the command
              rw [answers] at contract
              obtain rfl := contract
              exact ⟨⟨request.path, .status .invalidCommand⟩, ⟨rfl, rfl⟩, by simp⟩
            · rw [answers] at contract
              obtain ⟨payload, rfl⟩ := contract
              exact ⟨⟨request.path, .callback payload⟩, ⟨rfl, rfl⟩, rfl⟩
          · simp only [decodes, decoded, if_false]
            exact ⟨⟨request.path, .status .invalidCommand⟩, ⟨rfl, rfl⟩, rfl⟩

/-- A sequence of requests is answered in order. -/
theorem dispatchAll_answers (responds : sdk.Responds) (requests : List (CommandRequest Tlv))
    (s : Dispatching Servers Payload) :
    ∃ responses left, Answered sdk s.servers requests responses left ∧
      s.after (dispatchAll sdk requests) = ⟨s.commandObj ++ responses, left⟩ := by
  induction requests generalizing s with
  | nil => exact ⟨[], s.servers, .nil s.servers, by rw [List.append_nil]; rfl⟩
  | cons request rest ih =>
      obtain ⟨response, answered, here⟩ := dispatch_answers responds request s
      obtain ⟨responses, left, answers, later⟩ :=
        ih (s.after (dispatchSingleClusterCommand sdk request.path request.data))
      refine ⟨response :: responses, left, ?_, ?_⟩
      · rw [here] at answers
        exact .cons answered answers
      · have unfolded : s.after (dispatchAll sdk (request :: rest)) =
            (s.after (dispatchSingleClusterCommand sdk request.path request.data)).after
              (dispatchAll sdk rest) := rfl
        rw [unfolded, later, here, List.append_assoc]
        rfl

/-- What holds of every request and its response holds along the sequence. -/
theorem Answered.forall₂ {servers left : Servers} {requests : List (CommandRequest Tlv)}
    {responses : List (CommandResponse Payload)}
    (answered : Answered sdk servers requests responses left)
    {property : CommandRequest Tlv → CommandResponse Payload → Prop}
    (holds : ∀ servers request response,
      CommandRequest.AnsweredBy sdk servers request response → property request response) :
    List.Forall₂ property requests responses := by
  induction answered with
  | nil => exact .nil
  | cons first rest ih => exact .cons (holds _ _ _ first) ih

end Dispatch

/-! ### The configuration -/

/-- Behind a served cluster the configuration's list is the cases of the dispatcher. -/
theorem acceptedCommands_eq : ∀ cluster ∈ generatedClusters, cluster.side = .server →
    cluster.clusterId ≠ networkCommissioningId →
      cluster.acceptedCommands =
        ((dispatchedClusters.lookup cluster.clusterId).getD []).map Prod.fst := by
  decide +kernel

theorem mem_generatedClusters {endpoint : UInt16} {cluster : EmberAfCluster}
    (member : cluster ∈ endpointClusters endpoint) : cluster ∈ generatedClusters := by
  obtain ⟨entry, -, own⟩ := List.mem_flatMap.mp member
  split at own
  · exact List.mem_of_mem_drop (List.mem_of_mem_take own)
  · cases own

/-- A case exists exactly for the ids in the switch. -/
theorem isSome_dispatched_iff (path : ConcreteCommandPath) :
    (dispatched? path).isSome ↔
      path.commandId ∈ ((dispatchedClusters.lookup path.clusterId).getD []).map Prod.fst := by
  unfold dispatched?
  cases dispatchedClusters.lookup path.clusterId with
  | none => simp
  | some cases => simp [List.lookup_isSome_iff]

/-- On every endpoint, the commands a served cluster accepts are those the dispatcher has a case for. -/
theorem accepted_iff_dispatched {path : ConcreteCommandPath}
    (serves : Serves path.endpointId path.clusterId)
    (other : path.clusterId ≠ networkCommissioningId) :
    Accepts path ↔ (dispatched? path).isSome := by
  rw [isSome_dispatched_iff]
  constructor
  · rintro ⟨cluster, member, side, same, accepted⟩
    rw [← same] at other ⊢
    rwa [acceptedCommands_eq cluster (mem_generatedClusters member) side other] at accepted
  · intro cased
    obtain ⟨cluster, member, side, same⟩ := serves
    refine ⟨cluster, member, side, same, ?_⟩
    rw [← same] at other cased
    rwa [acceptedCommands_eq cluster (mem_generatedClusters member) side other]

theorem Accepts.serves {path : ConcreteCommandPath} (accepts : Accepts path) :
    Serves path.endpointId path.clusterId := by
  obtain ⟨cluster, member, side, same, -⟩ := accepts
  exact ⟨cluster, member, side, same⟩

/-- A response to a command the configuration accepts does not call it unsupported. -/
theorem supported_of_accepts {Servers Tlv Data Payload : Type}
    {sdk : ClusterServers Servers Tlv Data Payload} (responds : sdk.Responds) {servers : Servers}
    {request : CommandRequest Tlv} {response : CommandResponse Payload}
    (answered : request.AnsweredBy sdk servers response) (accepts : Accepts request.path)
    (other : request.path.clusterId ≠ networkCommissioningId) :
    response.content ≠ .status .unsupportedCluster ∧
      response.content ≠ .status .unsupportedCommand := by
  obtain ⟨command, dispatched⟩ :=
    Option.isSome_iff_exists.mp ((accepted_iff_dispatched accepts.serves other).mp accepts)
  obtain ⟨cases, known, -⟩ := Option.bind_eq_some_iff.mp dispatched
  have content := answered.2
  simp only [known, dispatched] at content
  have contract :=
    responds command request.path (sdk.decode command request.data).2 servers
  split at content
  · split at content
    next handled =>
      rw [handled] at contract
      obtain ⟨payload, own⟩ := contract
      obtain rfl := List.singleton_inj.mp (content.symm.trans own)
      exact ⟨nofun, nofun⟩
    next =>
      rw [content]
      exact ⟨nofun, nofun⟩
  · rw [content]
    exact ⟨nofun, nofun⟩

/-- With callbacks that respond once to what they handle and not otherwise, every request of a sequence gets
    its one response, in order, and the cluster servers change as the dispatched, well-formed requests ask
    and not otherwise. No response to a command the configuration accepts calls it unsupported, Network
    Commissioning apart. -/
theorem requests_answered {Servers Tlv Data Payload : Type}
    (sdk : ClusterServers Servers Tlv Data Payload) (responds : sdk.Responds)
    (requests : List (CommandRequest Tlv)) (s : Dispatching Servers Payload) :
    ∃ responses left, Answered sdk s.servers requests responses left ∧
      s.after (dispatchAll sdk requests) = ⟨s.commandObj ++ responses, left⟩ ∧
      List.Forall₂ (fun (request : CommandRequest Tlv) (response : CommandResponse Payload) =>
          response.path = request.path ∧
            (Accepts request.path → request.path.clusterId ≠ networkCommissioningId →
              response.content ≠ .status .unsupportedCluster ∧
                response.content ≠ .status .unsupportedCommand)) requests responses := by
  obtain ⟨responses, left, answers, done⟩ := dispatchAll_answers responds requests s
  refine ⟨responses, left, answers, done, answers.forall₂ ?_⟩
  intro servers request response answered
  exact ⟨answered.1, supported_of_accepts responds answered⟩

/-- Servers that know whether a lamp is on: On, Off and Toggle as the On/Off server handles them, no other
    cluster being looked at here. No data are malformed data. -/
def lampServers : ClusterServers Bool (Option Unit) Unit Unit where
  decode _ data := (if data.isSome then chipNoError else chipErrorInternal, ())
  callback command path _ lamp :=
    match command with
    | .on => (true, [⟨path, .callback ()⟩], true)
    | .off => (true, [⟨path, .callback ()⟩], false)
    | .toggle => (true, [⟨path, .callback ()⟩], !lamp)
    | _ => (false, [], lamp)

theorem lampServers_responds : lampServers.Responds := by
  intro command path data lamp
  cases command <;> first | exact ⟨(), rfl⟩ | exact rfl

/-- On and then, without data, Off; Toggle; a command the cluster does not have; and a command of a
    cluster the dispatcher does not have. -/
def lampRequests : List (CommandRequest (Option Unit)) :=
  [⟨⟨2, 0x0006, 0x01⟩, some ()⟩, ⟨⟨2, 0x0006, 0x00⟩, none⟩, ⟨⟨2, 0x0006, 0x02⟩, some ()⟩,
   ⟨⟨2, 0x0006, 0x07⟩, some ()⟩, ⟨⟨7, 0x0402, 0x00⟩, some ()⟩]

/-- `requests_answered` on these requests: the lamp is switched on, stays on without data for Off, and is
    toggled; the others are refused. -/
theorem requests_answered_lamp :
    (⟨[], false⟩ : Dispatching Bool Unit).after (dispatchAll lampServers lampRequests) =
        ⟨[⟨⟨2, 0x0006, 0x01⟩, .callback ()⟩, ⟨⟨2, 0x0006, 0x00⟩, .status .invalidCommand⟩,
          ⟨⟨2, 0x0006, 0x02⟩, .callback ()⟩,
          ⟨⟨2, 0x0006, 0x07⟩, .status .unsupportedCommand⟩,
          ⟨⟨7, 0x0402, 0x00⟩, .status .unsupportedCluster⟩], false⟩ ∧
      ∃ responses left, Answered lampServers false lampRequests responses left := by
  obtain ⟨responses, left, answers, -⟩ :=
    requests_answered lampServers lampServers_responds lampRequests ⟨[], false⟩
  exact ⟨rfl, responses, left, answers⟩

end DeviceWifi
