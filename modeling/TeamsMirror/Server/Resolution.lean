import TeamsMirror.Server.Atomicity
import TeamsMirror.Common.Requests
import TeamsMirror.Server.Naming
import TeamsMirror.Server.Provenance

/-!
# What a context designates

`/list`, `/info` and `/create` each walk from the team of the context to its
channel and its thread, with their own order of checks. `resolve` is that walk
once; the three commands are what they do at the place it leads to. The walk of
each of them also has a branch for a context with a gap, which no connection has:
`/use` is the only command that sets a context, and it refuses gaps.
-/

namespace TeamsMirror

open Lists

inductive Place where
  | root
  | team (team : Team)
  | channel (team : Team) (channel : Channel)
  | thread (team : Team) (channel : Channel) (thread : Thread)

/-- Team, subscription, channel, thread, as far as the context goes. -/
def resolve (context : CommandContext) (user : User) : Except StatusCode Place :=
  if context.contextTeamUuid = [] then .ok .root
  else
    match findTeamByUuid context.teams context.contextTeamUuid with
    | none => .error .notFound
    | some team =>
      if ¬team.isUserSubscribed user.uuid.bytes then .error .unauthorized
      else if context.contextChannelUuid = [] then .ok (.team team)
      else
        match findChannelByUuid team context.contextChannelUuid with
        | none => .error .notFound
        | some channel =>
          if context.contextThreadUuid = [] then .ok (.channel team channel)
          else
            match findThreadByUuid channel context.contextThreadUuid with
            | none => .error .notFound
            | some thread => .ok (.thread team channel thread)

namespace Place

/-- What `/list` shows at a place. -/
def listing (teams : List Team) : Place → List Packet
  | .root => listReply .teamsList (teams.map buildTeamPayload)
  | .team t => listReply .channelsList (t.channels.map buildChannelPayload)
  | .channel _ c => listReply .threadsList (c.threads.map buildThreadPayload)
  | .thread _ _ d => listReply .repliesList (d.replies.map (buildReplyPayload d))

/-- What `/info` shows at a place. -/
def info (user : User) : Place → Packet
  | .root => ⟨.userInfo, buildUserPayload user⟩
  | .team t => ⟨.teamsList, buildTeamPayload t⟩
  | .channel _ c => ⟨.channelsList, buildChannelPayload c⟩
  | .thread _ _ d => ⟨.threadsList, buildThreadPayload d⟩

/-- The uuids of a place and of its parents, as `/use` takes them. -/
def path : Place → Bytes × Bytes × Bytes
  | .root => ([], [], [])
  | .team t => (t.uuid.bytes, [], [])
  | .channel t c => (t.uuid.bytes, c.uuid.bytes, [])
  | .thread t c d => (t.uuid.bytes, c.uuid.bytes, d.uuid.bytes)

/-- The user is a subscriber of the team that the place belongs to, if any. -/
def OpenTo (u : User) : Place → Prop
  | .root => True
  | .team t | .channel t _ | .thread t _ _ => t.isUserSubscribed u.uuid.bytes = true

def StoredIn (teams : List Team) : Place → Prop
  | .root => True
  | .team t => t ∈ teams
  | .channel t c => t ∈ teams ∧ c ∈ t.channels
  | .thread t c d => t ∈ teams ∧ c ∈ t.channels ∧ d ∈ c.threads

/-- A new entity at a place, and the payload that shows it. -/
inductive Adds (teams : List Team) : Place → List Team → Payload → Prop where
  | team (t : Team) : Adds teams .root (teams ++ [t]) (buildTeamPayload t)
  | channel (t : Team) (c : Channel) :
      Adds teams (.team t) (updateTeam teams t.uuid.bytes fun team => team.addChannel c)
        (buildChannelPayload c)
  | thread (t : Team) (c : Channel) (d : Thread) :
      Adds teams (.channel t c)
        (updateTeam teams t.uuid.bytes fun team =>
          updateChannel team c.uuid.bytes fun channel => channel.addThread d)
        (buildThreadPayload d)
  | reply (t : Team) (c : Channel) (d : Thread) (m : Message) :
      Adds teams (.thread t c d)
        (updateTeam teams t.uuid.bytes fun team => updateChannel team c.uuid.bytes fun channel =>
          updateThread channel d.uuid.bytes fun thread => thread.addReply m)
        (buildReplyPayload d m)

/-- The uuids that a new entity at a place must avoid; a reply avoids none. -/
def used (teams : List Team) : Place → Bytes → Bool
  | .root => fun uuid => (findTeamByUuid teams uuid).isSome
  | .team _ => isChannelUuidUsed teams
  | .channel _ _ => isThreadUuidUsed teams
  | .thread _ _ _ => fun _ => false

end Place

/-- The team, channel and thread of a context have no gap. -/
def CommandContext.Hierarchical (context : CommandContext) : Prop :=
  isContextCombinationValid context.contextTeamUuid context.contextChannelUuid context.contextThreadUuid = true

theorem isContextCombinationValid_iff {teamUuid channelUuid threadUuid : Bytes} :
    isContextCombinationValid teamUuid channelUuid threadUuid = true ↔
      (channelUuid ≠ [] → teamUuid ≠ []) ∧ (threadUuid ≠ [] → channelUuid ≠ []) := by
  unfold isContextCombinationValid
  by_cases ht : teamUuid = [] <;> by_cases hc : channelUuid = [] <;> by_cases hd : threadUuid = [] <;>
    simp [ht, hc, hd]

variable {context : CommandContext} {user : User}

/-- The ways in which the walk can end. -/
inductive Walk (context : CommandContext) (user : User) : Except StatusCode Place → Prop where
  | root : context.contextTeamUuid = [] → Walk context user (.ok .root)
  | unknownTeam : context.contextTeamUuid ≠ [] →
      findTeamByUuid context.teams context.contextTeamUuid = none → Walk context user (.error .notFound)
  | notSubscribed {t : Team} : context.contextTeamUuid ≠ [] →
      findTeamByUuid context.teams context.contextTeamUuid = some t →
      t.isUserSubscribed user.uuid.bytes = false → Walk context user (.error .unauthorized)
  | team {t : Team} : context.contextTeamUuid ≠ [] → InTeam context user t →
      context.contextChannelUuid = [] → Walk context user (.ok (.team t))
  | unknownChannel {t : Team} : context.contextTeamUuid ≠ [] → InTeam context user t →
      context.contextChannelUuid ≠ [] → findChannelByUuid t context.contextChannelUuid = none →
      Walk context user (.error .notFound)
  | channel {t : Team} {c : Channel} : context.contextTeamUuid ≠ [] → InChannel context user t c →
      context.contextChannelUuid ≠ [] → context.contextThreadUuid = [] →
      Walk context user (.ok (.channel t c))
  | unknownThread {t : Team} {c : Channel} : context.contextTeamUuid ≠ [] → InChannel context user t c →
      context.contextChannelUuid ≠ [] → context.contextThreadUuid ≠ [] →
      findThreadByUuid c context.contextThreadUuid = none → Walk context user (.error .notFound)
  | thread {t : Team} {c : Channel} {d : Thread} : context.contextTeamUuid ≠ [] →
      InThread context user t c d → context.contextChannelUuid ≠ [] → context.contextThreadUuid ≠ [] →
      Walk context user (.ok (.thread t c d))

theorem resolve_walk (huser : getAuthenticatedUser context = some user) :
    Walk context user (resolve context user) := by
  unfold resolve
  split
  · next hteam => exact .root hteam
  next hteam =>
  split
  · next hnone => exact .unknownTeam hteam hnone
  next t ht =>
  split
  · next hsub => exact .notSubscribed hteam ht (by simpa using hsub)
  next hsub =>
  have hin : InTeam context user t := ⟨huser, ht, not_not.mp hsub⟩
  split
  · next hchannel => exact .team hteam hin hchannel
  next hchannel =>
  split
  · next hnone => exact .unknownChannel hteam hin hchannel hnone
  next c hc =>
  split
  · next hthread => exact .channel hteam ⟨hin, hc⟩ hchannel hthread
  next hthread =>
  split
  · next hnone => exact .unknownThread hteam ⟨hin, hc⟩ hchannel hthread hnone
  · next d hd => exact .thread hteam ⟨⟨hin, hc⟩, hd⟩ hchannel hthread

/-- How a command ends, as the walk does. -/
def CommandContext.endsAt (context : CommandContext) (atPlace : Place → CommandContext) :
    Except StatusCode Place → CommandContext
  | .error status => queueStatus context status
  | .ok place => atPlace place

/-- The loop of a list reply. -/
theorem queuePayloadArray_eq (status : StatusCode) (payloads : List Payload) :
    queuePayloadArray context status payloads =
      queuePackets context (toClient context (listReply status payloads)) := by
  simp only [queuePayloadArray, queueStatus_queuePackets]
  simp [toClient, listReply, Function.comp_def]

theorem handleList_resolve (hempty : context.payloadSize = 0) (huser : getAuthenticatedUser context = some user)
    (hcontext : context.Hierarchical) :
    handleListCommand context = context.endsAt
      (fun place => queuePackets context (toClient context (place.listing context.teams)))
      (resolve context user) := by
  have hwalk := resolve_walk huser
  rw [CommandContext.Hierarchical] at hcontext
  generalize resolve context user = result at hwalk
  cases hwalk with
  | root hteam =>
    rw [hteam] at hcontext
    simp [handleListCommand, hempty, huser, hcontext, hteam, queueTeamsList, queuePayloadArray_eq,
      CommandContext.endsAt, Place.listing]
  | unknownTeam hteam hnone =>
    simp [handleListCommand, hempty, huser, hcontext, hteam, hnone, CommandContext.endsAt]
  | notSubscribed hteam ht hsub =>
    simp [handleListCommand, hempty, huser, hcontext, hteam, ht, hsub, CommandContext.endsAt]
  | team hteam hin hchannel =>
    rw [hchannel] at hcontext
    simp [handleListCommand, hempty, huser, hcontext, hteam, hin.found, hin.subscribed, hchannel,
      queueChannelsList, queuePayloadArray_eq, CommandContext.endsAt, Place.listing]
  | unknownChannel hteam hin hchannel hnone =>
    simp [handleListCommand, hempty, huser, hcontext, hteam, hin.found, hin.subscribed, hchannel, hnone,
      CommandContext.endsAt]
  | channel hteam hin hchannel hthread =>
    rw [hthread] at hcontext
    simp [handleListCommand, hempty, huser, hcontext, hteam, hin.found, hin.subscribed, hchannel,
      hin.foundChannel, hthread, queueThreadsList, queuePayloadArray_eq, CommandContext.endsAt, Place.listing]
  | unknownThread hteam hin hchannel hthread hnone =>
    simp [handleListCommand, hempty, huser, hcontext, hteam, hin.found, hin.subscribed, hchannel,
      hin.foundChannel, hthread, hnone, CommandContext.endsAt]
  | thread hteam hin hchannel hthread =>
    simp [handleListCommand, hempty, huser, hcontext, hteam, hin.found, hin.subscribed, hchannel,
      hin.foundChannel, hthread, hin.foundThread, queueRepliesList, queuePayloadArray_eq,
      CommandContext.endsAt, Place.listing]

theorem handleInfo_resolve (hempty : context.payloadSize = 0) (huser : getAuthenticatedUser context = some user)
    (hcontext : context.Hierarchical) :
    handleInfoCommand context = context.endsAt
      (fun place => queuePacket context context.clientFd (place.info user)) (resolve context user) := by
  have hwalk := resolve_walk huser
  rw [CommandContext.Hierarchical] at hcontext
  generalize resolve context user = result at hwalk
  cases hwalk with
  | root hteam =>
    rw [hteam] at hcontext
    simp [handleInfoCommand, hempty, huser, hcontext, hteam, queueUserInfo, CommandContext.endsAt, Place.info]
  | unknownTeam hteam hnone =>
    simp [handleInfoCommand, hempty, huser, hcontext, hteam, hnone, CommandContext.endsAt]
  | notSubscribed hteam ht hsub =>
    simp [handleInfoCommand, hempty, huser, hcontext, hteam, ht, hsub, CommandContext.endsAt]
  | team hteam hin hchannel =>
    rw [hchannel] at hcontext
    simp [handleInfoCommand, hempty, huser, hcontext, hteam, hin.found, hin.subscribed, hchannel,
      queueTeamInfo, CommandContext.endsAt, Place.info]
  | unknownChannel hteam hin hchannel hnone =>
    simp [handleInfoCommand, hempty, huser, hcontext, hteam, hin.found, hin.subscribed, hchannel, hnone,
      CommandContext.endsAt]
  | channel hteam hin hchannel hthread =>
    rw [hthread] at hcontext
    simp [handleInfoCommand, hempty, huser, hcontext, hteam, hin.found, hin.subscribed, hchannel,
      hin.foundChannel, hthread, queueChannelInfo, CommandContext.endsAt, Place.info]
  | unknownThread hteam hin hchannel hthread hnone =>
    simp [handleInfoCommand, hempty, huser, hcontext, hteam, hin.found, hin.subscribed, hchannel,
      hin.foundChannel, hthread, hnone, CommandContext.endsAt]
  | thread hteam hin hchannel hthread =>
    simp [handleInfoCommand, hempty, huser, hcontext, hteam, hin.found, hin.subscribed, hchannel,
      hin.foundChannel, hthread, hin.foundThread, queueThreadInfo, CommandContext.endsAt, Place.info]

/-- The payload is well formed for what the context is about to create, and the name in it is not
taken where it would be created. -/
def CommandContext.AcceptsCreation (context : CommandContext) : Prop :=
  if context.contextTeamUuid = [] then
    ∃ name description, parseCreateTeamPayload context = some (name, description) ∧
      ∀ t ∈ context.teams, t.name.bytes ≠ name
  else if context.contextChannelUuid = [] then
    ∃ name description, parseCreateChannelPayload context = some (name, description) ∧
      ∀ t, findTeamByUuid context.teams context.contextTeamUuid = some t →
        ∀ c ∈ t.channels, c.name.bytes ≠ name
  else if context.contextThreadUuid = [] then
    ∃ title body, parseCreateThreadPayload context = some (title, body) ∧
      ∀ t c, findTeamByUuid context.teams context.contextTeamUuid = some t →
        findChannelByUuid t context.contextChannelUuid = some c → ∀ d ∈ c.threads, d.title.bytes ≠ title
  else ∃ body, parseCreateReplyPayload context = some body

/-- The command has added an entity at the place and answered with it. -/
def CommandContext.Creates (context : CommandContext) (place : Place) (context' : CommandContext) : Prop :=
  ∃ teams payload events, place.Adds context.teams teams payload ∧
    context' = perform context (context.toServer.setTeams teams)
      (toClient context [⟨.created, payload⟩] ++ events)

/-- One of the draws of the environment is unused. -/
def Environment.Draws (environment : Environment) (used : Bytes → Bool) : Prop :=
  ∃ draw ∈ environment.draw :: environment.redraws, used (generateUuid draw) = false

theorem Environment.Draws.exists_unused {environment : Environment} {used : Bytes → Bool}
    (h : environment.Draws used) : ∃ draw, generateUnused environment used = some (generateUuid draw) := by
  obtain ⟨draw, hdraw, hunused⟩ := h
  cases hfind : generateUnused environment used with
  | none =>
    have hused := List.find?_eq_none.mp hfind (generateUuid draw) (List.mem_map_of_mem hdraw)
    simp [hunused] at hused
  | some uuid =>
    obtain ⟨⟨draw, rfl⟩, -⟩ := generateUnused_eq_some hfind
    exact ⟨draw, rfl⟩

theorem Environment.generateUnused_eq_none {environment : Environment} {used : Bytes → Bool}
    (h : ¬environment.Draws used) : generateUnused environment used = none := by
  rw [generateUnused, List.find?_eq_none]
  intro uuid huuid
  obtain ⟨draw, hdraw, rfl⟩ := List.mem_map.mp huuid
  have hused : used (generateUuid draw) ≠ false := fun hfree => h ⟨draw, hdraw, hfree⟩
  simpa using hused

theorem handleCreateTeam_creates {name description : Bytes}
    (hparse : parseCreateTeamPayload context = some (name, description))
    (hnames : ∀ t ∈ context.teams, t.name.bytes ≠ name)
    (hdraws : context.environment.Draws (Place.root.used context.teams)) :
    ∃ context', handleCreateTeam context user = some context' ∧ context.Creates .root context' := by
  obtain ⟨draw, hdraw⟩ := hdraws.exists_unused
  have hdraw : generateUniqueTeamUuid context = some (generateUuid draw) := hdraw
  have hfree : (context.teams.any fun team => team.name.bytes = name) = false := by simpa using hnames
  let t := (Team.new (generateUuid draw) name description).addSubscribedUser user.uuid.bytes
  refine ⟨_, by simp only [handleCreateTeam, hparse, hfree, hdraw]; rfl,
    _, _, toEveryone context.toServer (teamCreatedEvent t), .team t, ?_⟩
  rw [perform, ← queuePackets_queuePackets]
  rfl

theorem handleCreateTeam_stuck {name description : Bytes}
    (hparse : parseCreateTeamPayload context = some (name, description))
    (hnames : ∀ t ∈ context.teams, t.name.bytes ≠ name)
    (hdraws : ¬context.environment.Draws (Place.root.used context.teams)) :
    handleCreateTeam context user = none := by
  have hdraw : generateUniqueTeamUuid context = none := Environment.generateUnused_eq_none hdraws
  have hfree : (context.teams.any fun team => team.name.bytes = name) = false := by simpa using hnames
  simp [handleCreateTeam, hparse, hfree, hdraw]

theorem handleCreateChannel_creates {t : Team} (hin : InTeam context user t) {name description : Bytes}
    (hparse : parseCreateChannelPayload context = some (name, description))
    (hnames : ∀ c ∈ t.channels, c.name.bytes ≠ name)
    (hdraws : context.environment.Draws ((Place.team t).used context.teams)) :
    ∃ context', handleCreateChannel context user = some context' ∧ context.Creates (.team t) context' := by
  obtain ⟨draw, hdraw⟩ := hdraws.exists_unused
  have hdraw : generateUniqueChannelUuid context = some (generateUuid draw) := hdraw
  have hfree : (t.channels.any fun channel => channel.name.bytes = name) = false := by simpa using hnames
  obtain ⟨-, -, hname, hdescription⟩ := parseCreateChannelPayload_eq_some hparse
  have huuid : context.contextTeamUuid = t.uuid.bytes := (uuid_of_findTeam hin.found).symm
  let c := Channel.new (generateUuid draw) name description
  refine ⟨_, by simp only [handleCreateChannel, hparse, hin.found, hin.subscribed, hfree, hdraw]; rfl,
    _, _, toSubscribers context.toServer t (channelCreatedEvent c), .channel t c, ?_⟩
  rw [perform, ← queuePackets_queuePackets]
  simp only [← copyPadded_copyBuffer hname, ← copyPadded_copyBuffer hdescription,
    ← copyPadded_copyBuffer (n := uuidLength) (zero_notMem_generateUuid draw), huuid]
  rfl

theorem handleCreateChannel_stuck {t : Team} (hin : InTeam context user t) {name description : Bytes}
    (hparse : parseCreateChannelPayload context = some (name, description))
    (hnames : ∀ c ∈ t.channels, c.name.bytes ≠ name)
    (hdraws : ¬context.environment.Draws ((Place.team t).used context.teams)) :
    handleCreateChannel context user = none := by
  have hdraw : generateUniqueChannelUuid context = none := Environment.generateUnused_eq_none hdraws
  have hfree : (t.channels.any fun channel => channel.name.bytes = name) = false := by simpa using hnames
  simp [handleCreateChannel, hparse, hin.found, hin.subscribed, hfree, hdraw]

theorem resolveContextTeamChannel_eq {t : Team} {c : Channel} (hin : InChannel context user t c) :
    resolveContextTeamChannel context user = .ok (t, c) := by
  simp [resolveContextTeamChannel, hin.found, hin.subscribed, hin.foundChannel]

theorem handleCreateThread_creates {t : Team} {c : Channel} (hin : InChannel context user t c)
    {title body : Bytes} (hparse : parseCreateThreadPayload context = some (title, body))
    (htitles : ∀ d ∈ c.threads, d.title.bytes ≠ title)
    (hdraws : context.environment.Draws ((Place.channel t c).used context.teams)) :
    ∃ context', handleCreateThread context user = some context' ∧ context.Creates (.channel t c) context' := by
  obtain ⟨draw, hdraw⟩ := hdraws.exists_unused
  have hdraw : generateUniqueThreadUuid context = some (generateUuid draw) := hdraw
  have hfree : (c.threads.any fun thread => thread.title.bytes = title) = false := by simpa using htitles
  obtain ⟨-, -, -, htitle, hbody⟩ := parseCreateThreadPayload_eq_some hparse
  let d := Thread.new (generateUuid draw) user.uuid.bytes context.environment.now title body
  refine ⟨_, by simp only [handleCreateThread, hparse, resolveContextTeamChannel_eq hin, hfree, hdraw]; rfl,
    _, _, toSubscribers context.toServer t (threadCreatedEvent d), .thread t c d, ?_⟩
  rw [perform, ← queuePackets_queuePackets]
  simp only [← copyPadded_copyBuffer htitle, ← copyPadded_copyBuffer hbody,
    ← copyPadded_copyBuffer (n := uuidLength) user.uuid.noNul,
    ← copyPadded_copyBuffer (n := uuidLength) (zero_notMem_generateUuid draw)]
  rfl

theorem handleCreateThread_stuck {t : Team} {c : Channel} (hin : InChannel context user t c)
    {title body : Bytes} (hparse : parseCreateThreadPayload context = some (title, body))
    (htitles : ∀ d ∈ c.threads, d.title.bytes ≠ title)
    (hdraws : ¬context.environment.Draws ((Place.channel t c).used context.teams)) :
    handleCreateThread context user = none := by
  have hdraw : generateUniqueThreadUuid context = none := Environment.generateUnused_eq_none hdraws
  have hfree : (c.threads.any fun thread => thread.title.bytes = title) = false := by simpa using htitles
  simp [handleCreateThread, hparse, resolveContextTeamChannel_eq hin, hfree, hdraw]

theorem handleCreateReply_creates {t : Team} {c : Channel} {d : Thread} (hin : InThread context user t c d)
    {body : Bytes} (hparse : parseCreateReplyPayload context = some body) :
    context.Creates (.thread t c d) (handleCreateReply context user) := by
  obtain ⟨-, -, hbody⟩ := parseCreateReplyPayload_eq_some hparse
  let m := Message.new (generateUuid context.environment.draw) user.uuid.bytes context.environment.now body
  refine ⟨_, _, toSubscribers context.toServer t (replyCreatedEvent t d m), .reply t c d m, ?_⟩
  simp only [handleCreateReply, hparse, resolveContextTeamChannel_eq hin.toInChannel, hin.foundThread]
  rw [perform, ← queuePackets_queuePackets]
  simp only [← copyPadded_copyBuffer hbody, ← copyPadded_copyBuffer (n := uuidLength) user.uuid.noNul]
  rfl

/-- A walk that fails above a thread fails for each kind of creation below the root. -/
theorem handleCreate_refused {status : StatusCode} (huser : getAuthenticatedUser context = some user)
    (hteam : context.contextTeamUuid ≠ [])
    (hgap : context.contextThreadUuid ≠ [] → context.contextChannelUuid ≠ [])
    (haccepts : context.AcceptsCreation)
    (hresolve : resolveContextTeamChannel context user = .error status)
    (hchannel : ∀ name description, parseCreateChannelPayload context = some (name, description) →
      context.contextChannelUuid = [] → handleCreateChannel context user = some (queueStatus context status)) :
    handleCreateCommand context = some (queueStatus context status) := by
  rw [CommandContext.AcceptsCreation, if_neg hteam] at haccepts
  by_cases hempty : context.contextChannelUuid = []
  · have hthread : context.contextThreadUuid = [] := by
      by_contra hne
      exact hgap hne hempty
    rw [if_pos hempty] at haccepts
    obtain ⟨name, description, hparse, -⟩ := haccepts
    simp [handleCreateCommand, huser, hteam, hempty, hthread, hchannel name description hparse hempty]
  rw [if_neg hempty] at haccepts
  by_cases hthread : context.contextThreadUuid = []
  · rw [if_pos hthread] at haccepts
    obtain ⟨title, body, hparse, -⟩ := haccepts
    simp [handleCreateCommand, huser, hteam, hempty, hthread, handleCreateThread, hparse, hresolve]
  · rw [if_neg hthread] at haccepts
    obtain ⟨body, hparse⟩ := haccepts
    simp [handleCreateCommand, huser, hteam, hempty, hthread, handleCreateReply, hparse, hresolve]

/-- Where the walk ends in a status, creation is refused with it; elsewhere it adds to the place, or
never draws an unused uuid. -/
theorem handleCreate_resolve (huser : getAuthenticatedUser context = some user)
    (hcontext : context.Hierarchical) (haccepts : context.AcceptsCreation) :
    match resolve context user with
    | .error status => handleCreateCommand context = some (queueStatus context status)
    | .ok place => (context.environment.Draws (place.used context.teams) →
        ∃ context', handleCreateCommand context = some context' ∧ context.Creates place context') ∧
      (¬context.environment.Draws (place.used context.teams) → handleCreateCommand context = none) := by
  have hwalk := resolve_walk huser
  have hgap := isContextCombinationValid_iff.mp hcontext
  generalize resolve context user = result at hwalk
  cases hwalk with
  | root hteam =>
    have hchannel : context.contextChannelUuid = [] := by
      by_contra hne
      exact hgap.1 hne hteam
    have hthread : context.contextThreadUuid = [] := by
      by_contra hne
      exact hgap.2 hne hchannel
    rw [CommandContext.AcceptsCreation, if_pos hteam] at haccepts
    obtain ⟨name, description, hparse, hnames⟩ := haccepts
    have hcommand : handleCreateCommand context = handleCreateTeam context user := by
      simp [handleCreateCommand, huser, hteam, hchannel, hthread]
    simp only [hcommand]
    exact ⟨handleCreateTeam_creates hparse hnames, handleCreateTeam_stuck hparse hnames⟩
  | unknownTeam hteam hnone =>
    have hresolve : resolveContextTeamChannel context user = .error .notFound := by
      simp [resolveContextTeamChannel, hnone]
    refine handleCreate_refused huser hteam hgap.2 haccepts hresolve fun name description hparse => ?_
    simp [handleCreateChannel, hparse, hnone]
  | notSubscribed hteam ht hsub =>
    have hresolve : resolveContextTeamChannel context user = .error .unauthorized := by
      simp [resolveContextTeamChannel, ht, hsub]
    refine handleCreate_refused huser hteam hgap.2 haccepts hresolve fun name description hparse => ?_
    simp [handleCreateChannel, hparse, ht, hsub]
  | @team t hteam hin hchannel =>
    have hthread : context.contextThreadUuid = [] := by
      by_contra hne
      exact hgap.2 hne hchannel
    rw [CommandContext.AcceptsCreation, if_neg hteam, if_pos hchannel] at haccepts
    obtain ⟨name, description, hparse, hnames⟩ := haccepts
    have hnames := hnames t hin.found
    have hcommand : handleCreateCommand context = handleCreateChannel context user := by
      simp [handleCreateCommand, huser, hteam, hchannel, hthread]
    simp only [hcommand]
    exact ⟨handleCreateChannel_creates hin hparse hnames, handleCreateChannel_stuck hin hparse hnames⟩
  | unknownChannel hteam hin hchannel hnone =>
    have hresolve : resolveContextTeamChannel context user = .error .notFound := by
      simp [resolveContextTeamChannel, hin.found, hin.subscribed, hnone]
    exact handleCreate_refused huser hteam hgap.2 haccepts hresolve fun _ _ _ hempty => absurd hempty hchannel
  | @channel t c hteam hin hchannel hthread =>
    rw [CommandContext.AcceptsCreation, if_neg hteam, if_neg hchannel, if_pos hthread] at haccepts
    obtain ⟨title, body, hparse, htitles⟩ := haccepts
    have htitles := htitles t c hin.found hin.foundChannel
    have hcommand : handleCreateCommand context = handleCreateThread context user := by
      simp [handleCreateCommand, huser, hteam, hchannel, hthread]
    simp only [hcommand]
    exact ⟨handleCreateThread_creates hin hparse htitles, handleCreateThread_stuck hin hparse htitles⟩
  | unknownThread hteam hin hchannel hthread hnone =>
    rw [CommandContext.AcceptsCreation, if_neg hteam, if_neg hchannel, if_neg hthread] at haccepts
    obtain ⟨body, hparse⟩ := haccepts
    simp [handleCreateCommand, huser, hteam, hchannel, hthread, handleCreateReply, hparse,
      resolveContextTeamChannel_eq hin, hnone]
  | @thread t c d hteam hin hchannel hthread =>
    rw [CommandContext.AcceptsCreation, if_neg hteam, if_neg hchannel, if_neg hthread] at haccepts
    obtain ⟨body, hparse⟩ := haccepts
    have hdraws : context.environment.Draws ((Place.thread t c d).used context.teams) :=
      ⟨context.environment.draw, List.mem_cons_self, rfl⟩
    refine ⟨fun _ => ?_, fun hnot => absurd hdraws hnot⟩
    simpa [handleCreateCommand, huser, hteam, hchannel, hthread] using handleCreateReply_creates hin hparse

/-- What `/use` asks for is stored unchanged, and has no gap. -/
theorem extractOptionalUuid_fits {field : CharArray uuidLength} {uuid : Bytes}
    (h : extractOptionalUuid field.bytes = some uuid) : (CString.copyBuffer uuidLength uuid).bytes = uuid := by
  unfold extractOptionalUuid at h
  split at h
  · cases h
  · split at h
    · cases h
      rfl
    · obtain ⟨htext, -⟩ := Option.filter_eq_some_iff.mp h
      exact fits_of_extract htext

theorem parseUsePayload_valid {payload teamUuid channelUuid threadUuid : Bytes}
    (h : parseUsePayload payload = some (teamUuid, channelUuid, threadUuid)) :
    isContextCombinationValid (CString.copyBuffer uuidLength teamUuid).bytes
      (CString.copyBuffer uuidLength channelUuid).bytes
      (CString.copyBuffer uuidLength threadUuid).bytes = true := by
  unfold parseUsePayload at h
  split at h
  · obtain ⟨_, hteam, h⟩ := Option.bind_eq_some_iff.mp h
    cases h
    refine isContextCombinationValid_iff.mpr ⟨fun hne => ?_, fun hne => ?_⟩
    · exact absurd rfl hne
    · exact absurd rfl hne
  · obtain ⟨_, hteam, h⟩ := Option.bind_eq_some_iff.mp h
    obtain ⟨_, hchannel, h⟩ := Option.bind_eq_some_iff.mp h
    obtain ⟨_, hthread, h⟩ := Option.bind_eq_some_iff.mp h
    split at h
    · next hvalid =>
      cases h
      rw [extractOptionalUuid_fits hteam, extractOptionalUuid_fits hchannel,
        extractOptionalUuid_fits hthread]
      exact hvalid
    · cases h

namespace Server

variable {s s' : Server}

/-- No connection has a context with a gap. -/
def Hierarchical (s : Server) : Prop :=
  ∀ fd, isContextCombinationValid (s.clientManager.getContextTeamUuid fd)
    (s.clientManager.getContextChannelUuid fd) (s.clientManager.getContextThreadUuid fd) = true

theorem hierarchical_iff : s.Hierarchical ↔ ∀ fd c, s.clientManager.clients.lookup fd = some c →
    isContextCombinationValid c.ctxTeamUuid.bytes c.ctxChannelUuid.bytes c.ctxThreadUuid.bytes = true := by
  simp only [Hierarchical, ClientManager.getContextTeamUuid, ClientManager.getContextChannelUuid,
    ClientManager.getContextThreadUuid, ClientManager.find]
  constructor
  · intro h fd c hc
    simpa [hc] using h fd
  · intro h fd
    cases hlookup : s.clientManager.clients.lookup fd with
    | none => rfl
    | some c => exact h fd c hlookup

theorem Hierarchical.of_getContext (h : s.Hierarchical)
    (hcontext : ∀ fd, s'.clientManager.getContext fd = s.clientManager.getContext fd) : s'.Hierarchical := by
  intro fd
  have hfd := hcontext fd
  simp only [ClientManager.getContext, Prod.mk.injEq] at hfd
  rw [hfd.1, hfd.2.1, hfd.2.2]
  exact h fd

theorem Hierarchical.effect {context : CommandContext} {command : CommandID} {packets : List (Fd × Packet)}
    (h : context.toServer.Hierarchical) (he : Effect context command s packets) : s.Hierarchical := by
  cases he with
  | @used teamUuid channelUuid threadUuid _ hparse =>
    refine hierarchical_iff.mpr fun fd c hc => ?_
    rw [ClientManager.setContext, ClientManager.lookup_update] at hc
    obtain ⟨c₀, hc₀, rfl⟩ := Option.map_eq_some_iff.mp hc
    split
    · exact parseUsePayload_valid hparse
    · exact hierarchical_iff.mp h fd c₀ hc₀
  | _ => exact h

theorem Hierarchical.step {e : Event} {queued : List (Fd × Packet)} (h : s.Hierarchical)
    (hs : s.handle e = some (s', queued)) : s'.Hierarchical := by
  cases e with
  | accept fd =>
    obtain ⟨-, rfl, -⟩ := handle_accept hs
    refine hierarchical_iff.mpr fun fd' c hc => ?_
    have hc : (UnorderedMap.emplace fd Client.new s.clientManager.clients).lookup fd' = some c := hc
    by_cases hfd : fd ∈ s.clientManager.clients
    · rw [UnorderedMap.emplace, if_pos hfd] at hc
      exact hierarchical_iff.mp h fd' c hc
    · rw [UnorderedMap.lookup_emplace_of_notMem hfd] at hc
      split at hc
      · cases hc
        rfl
      · exact hierarchical_iff.mp h fd' c hc
  | receive fd chunk =>
    obtain ⟨-, -, rfl⟩ := handle_receive hs
    refine h.of_getContext fun fd' => ?_
    simp only [ClientManager.appendToIncomingBuffer_eq]
    refine ClientManager.getContext_update ?_
    exact fun _ => ⟨rfl, rfl, rfl⟩
  | dispatch fd environment =>
    obtain ⟨-, command, payload, middle, size, heffect, rfl⟩ := handle_dispatch hs
    have hmiddle : middle.Hierarchical := Hierarchical.effect h heffect
    refine hmiddle.of_getContext fun fd' => ?_
    refine Eq.trans (ClientManager.getContext_update ?_) (ClientManager.getContext_sendAll _ fd' queued)
    exact fun _ => ⟨rfl, rfl, rfl⟩
  | flush fd n =>
    obtain ⟨-, -, -, rfl⟩ := handle_flush hs
    refine h.of_getContext fun fd' => ?_
    refine ClientManager.getContext_update ?_
    exact fun _ => ⟨rfl, rfl, rfl⟩
  | disconnect fd =>
    obtain ⟨-, middle, hd, rfl⟩ := handle_disconnect hs
    have hmanager : middle.clientManager = s.clientManager := by
      cases hd with
      | anonymous | known | unknown => rfl
    have hdelivered : (middle.deliver queued).Hierarchical := by
      refine h.of_getContext fun fd' => ?_
      rw [← hmanager]
      exact ClientManager.getContext_sendAll _ fd' queued
    refine hierarchical_iff.mpr fun fd' c hc => ?_
    have hc : ((middle.deliver queued).clientManager.clients.erase fd).lookup fd' = some c := hc
    by_cases hfd : fd' = fd
    · rw [hfd, AList.lookup_erase] at hc
      cases hc
    · rw [AList.lookup_erase_ne hfd] at hc
      exact hierarchical_iff.mp hdelivered fd' c hc

theorem Reachable.hierarchical (h : s.Reachable) : s.Hierarchical :=
  h.induction (fun _ _ _ _ _ => rfl) fun _ _ _ _ hs hstep => hs.step hstep

/-- A header-only `/list`, a header-only `/info` and a `/create` of one connection, each in its own
environment, are all refused with one status, or all take place where the context leads; creation
does so once an unused uuid is drawn. -/
def ContextsAgree (s : Server) (fd : Fd) (listEnvironment infoEnvironment createEnvironment : Environment)
    (payload : Bytes) : Prop :=
  let listContext := s.context fd [] listEnvironment
  let infoContext := s.context fd [] infoEnvironment
  let createContext := s.context fd payload createEnvironment
  ∃ user, getAuthenticatedUser createContext = some user ∧
    ((∃ status, (status = .notFound ∨ status = .unauthorized) ∧
      dispatchCommand listContext CommandID.list.code = some (queueStatus listContext status) ∧
      dispatchCommand infoContext CommandID.info.code = some (queueStatus infoContext status) ∧
      dispatchCommand createContext CommandID.create.code = some (queueStatus createContext status)) ∨
    ∃ place, resolve createContext user = .ok place ∧
      dispatchCommand listContext CommandID.list.code =
        some (queuePackets listContext (toClient listContext (place.listing s.teams))) ∧
      dispatchCommand infoContext CommandID.info.code =
        some (queuePacket infoContext fd (place.info user)) ∧
      (createEnvironment.Draws (place.used s.teams) →
        ∃ context', dispatchCommand createContext CommandID.create.code = some context' ∧
          createContext.Creates place context'))

/-- In every reachable state no context has a gap, and the three commands of a connection that is
logged in agree on where its context leads. -/
theorem contexts_agree (hs : s.Reachable) {fd : Fd} (hfd : fd ∈ s.authenticatedUsersByFd)
    (listEnvironment infoEnvironment : Environment) {createEnvironment : Environment} {payload : Bytes}
    (haccepts : (s.context fd payload createEnvironment).AcceptsCreation) :
    s.Hierarchical ∧ s.ContextsAgree fd listEnvironment infoEnvironment createEnvironment payload := by
  have hcontext := hs.hierarchical
  obtain ⟨uuid, huuid⟩ := UnorderedMap.exists_lookup hfd
  obtain ⟨user, hfound, -, -⟩ := hs.known.exists_user huuid
  have huser : ∀ payload environment,
      getAuthenticatedUser (s.context fd payload environment) = some user := fun _ _ => by
    change (s.authenticatedUsersByFd.lookup fd).bind (findUserByUuid s.users) = some user
    rw [huuid, Option.bind_some, hfound]
  have hlist := handleList_resolve rfl (huser [] listEnvironment) (hcontext fd)
  have hinfo := handleInfo_resolve rfl (huser [] infoEnvironment) (hcontext fd)
  have hcreate := handleCreate_resolve (huser payload createEnvironment) (hcontext fd) haccepts
  have hwalk := resolve_walk (huser payload createEnvironment)
  -- the walk reads the stored state and the context of the connection only
  have hsame : ∀ payload' environment', resolve (s.context fd payload' environment') user =
      resolve (s.context fd payload createEnvironment) user := fun _ _ => rfl
  rw [hsame] at hlist hinfo
  refine ⟨hcontext, user, huser payload createEnvironment, ?_⟩
  cases hresult : resolve (s.context fd payload createEnvironment) user with
  | error status =>
    rw [hresult] at hlist hinfo hcreate hwalk
    refine .inl ⟨status, ?_, congrArg some hlist, congrArg some hinfo, hcreate⟩
    cases hwalk with
    | unknownTeam | unknownChannel | unknownThread => exact .inl rfl
    | notSubscribed => exact .inr rfl
  | ok place =>
    rw [hresult] at hlist hinfo hcreate
    exact .inr ⟨place, rfl, congrArg some hlist, congrArg some hinfo, hcreate.1⟩

/-- Connection 4 has created a team and uses it. -/
def usedTeamRun : List Event :=
  [.accept 4, .receive 4 (Request.login [97]).packet, .dispatch 4 default,
    .receive 4 (Request.createTeam [98] []).packet, .dispatch 4 default,
    .receive 4 (Request.use (generateUuid (default : Environment).draw) [] []).packet, .dispatch 4 default]

theorem contexts_agree_used_team :
    ∃ s, Runs.run step (start 3 [] [] []) usedTeamRun = some s ∧ s.Hierarchical ∧
      s.ContextsAgree 4 default default default (Request.createChannel [99] []).payload := by
  obtain ⟨s, hs⟩ : ∃ s, Runs.run step (start 3 [] [] []) usedTeamRun = some s :=
    Option.isSome_iff_exists.mp (by decide +kernel)
  have hfacts : (Runs.run step (start 3 [] [] []) usedTeamRun).map (fun s =>
      (decide ((4 : Fd) ∈ s.authenticatedUsersByFd), s.clientManager.getContextTeamUuid 4,
        s.clientManager.getContextChannelUuid 4, s.teams.flatMap Team.channels)) =
          some (true, generateUuid (default : Environment).draw, [], []) := by
    decide +kernel
  rw [hs] at hfacts
  simp only [Option.map_some, Option.some.injEq, Prod.mk.injEq, decide_eq_true_eq] at hfacts
  obtain ⟨hfd, hteam, hchannel, hchannels⟩ := hfacts
  have hteam : (s.context 4 (Request.createChannel [99] []).payload default).contextTeamUuid ≠ [] := by
    intro hempty
    rw [CommandContext.contextTeamUuid] at hempty
    exact absurd (hteam.symm.trans hempty) (by decide)
  have hchannel : (s.context 4 (Request.createChannel [99] []).payload default).contextChannelUuid = [] :=
    hchannel
  have haccepts : (s.context 4 (Request.createChannel [99] []).payload default).AcceptsCreation := by
    rw [CommandContext.AcceptsCreation, if_neg hteam, if_pos hchannel]
    have hparse : parseCreateChannelPayload ((start 3 [] [] []).context 4
        (Request.createChannel [99] []).payload default) = some ([99], []) := by decide +kernel
    refine ⟨[99], [], hparse, fun t ht c hc => ?_⟩
    have hmem : c ∈ s.teams.flatMap Team.channels :=
      List.mem_flatMap.mpr ⟨t, List.mem_of_find?_eq_some ht, hc⟩
    rw [hchannels] at hmem
    cases hmem
  exact ⟨s, hs, contexts_agree ⟨3, [], [], [], usedTeamRun, hs⟩ hfd default default haccepts⟩

end Server

end TeamsMirror
