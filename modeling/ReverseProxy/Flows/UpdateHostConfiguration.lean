import ReverseProxy.Flows.ReloadPortConfigurations
import ReverseProxy.Library.Runs

/-!
# Updating single hosts of the live configuration

`update_host_configuration` reads a port, compiles one host into it and writes
the whole port back.  The lock is not held in between, so that a call overwrites
what others have written.
-/

namespace ReverseProxy

open Library AppConfigurationInner Run HttpListenPortConfiguration Function ListenEndpoint List

/-! ## Calls -/

inductive UpdateStage where
  | compiling (existing : Option ListenConfiguration)
  | succeeded
  | failed (err : String)

structure UpdateCall where
  hostEndpoint : EndpointHttpHostString
  hostSettings : HostSettings
  stage : UpdateStage

def AppConfigurationInner.writeHost (config : AppConfigurationInner)
    (hostEndpoint : EndpointHttpHostString)
    (configuration : ListenConfiguration) : AppConfigurationInner :=
  { listenEndpoints := update config.listenEndpoints
      hostEndpoint.getPort (some configuration)
    errorConfigurations := update config.errorConfigurations hostEndpoint.src none }

structure HostUpdates where
  config : AppConfigurationInner
  calls : List UpdateCall := []

namespace HostUpdates

inductive Event where
  | started (hostEndpoint : EndpointHttpHostString) (hostSettings : HostSettings)
  | written (call : UpdateCall) (existing : Option ListenConfiguration)
  | failed (call : UpdateCall) (err : String)

/-- Calls for different hosts.  The await points of a call are those of the
compilation and of the lock. -/
inductive Step (scripts : HostScripts) : HostUpdates → Event → HostUpdates → Prop where
  | started (state : HostUpdates) (hostEndpoint : EndpointHttpHostString)
      (hostSettings : HostSettings)
      (different : ∀ call ∈ state.calls, call.hostEndpoint.src ≠ hostEndpoint.src) :
      Step scripts state (.started hostEndpoint hostSettings)
        { state with
          calls := state.calls ++ [{
            hostEndpoint
            hostSettings
            stage := .compiling (state.config.listenEndpoints hostEndpoint.getPort) }] }
  | written {state : HostUpdates} {before after : List UpdateCall}
      {call : UpdateCall} {existing : Option ListenConfiguration}
      {configuration : ListenConfiguration}
      (running : state.calls = before ++ call :: after)
      (stage : call.stage = .compiling existing)
      (compiled : compileHostConfiguration scripts call.hostEndpoint
        call.hostSettings existing = .ok configuration) :
      Step scripts state (.written call existing)
        { config := state.config.writeHost call.hostEndpoint configuration
          calls := before ++ { call with stage := .succeeded } :: after }
  | failed {state : HostUpdates} {before after : List UpdateCall}
      {call : UpdateCall} {existing : Option ListenConfiguration}
      {err : String} (running : state.calls = before ++ call :: after)
      (stage : call.stage = .compiling existing)
      (refused : compileHostConfiguration scripts call.hostEndpoint
        call.hostSettings existing = .error err) :
      Step scripts state (.failed call err)
        { state with
          calls := before ++ { call with stage := .failed err } :: after }

end HostUpdates

/-! ## Endpoints by host -/

def ListenConfiguration.endpointOf (host : Str) :
    ListenConfiguration → Option ListenEndpoint
  | .http config =>
    (config.endpoints.find? fun info =>
      info.hostEndpoint.src = host).map .http
  | .tcp config =>
    if config.hostEndpoint.src = host then some (.tcp config) else none
  | .mcp config =>
    (config.endpoints.find? fun info =>
      info.hostEndpoint.src = host).map .http

def AppConfigurationInner.endpointAt (config : AppConfigurationInner)
    (port : EndpointPort) (host : Str) : Option ListenEndpoint :=
  (config.listenEndpoints port).bind (·.endpointOf host)

theorem endpointOf_ofHttp (last : ListenHttpEndpointType)
    (config : HttpListenPortConfiguration) (host : Str) :
    (ListenConfiguration.ofHttp last config).endpointOf host = (config.endpoints.find? fun info =>
        info.hostEndpoint.src = host).map .http := by
  cases last <;> rfl

/-- Merging replaces the endpoint of its own host only.  A TCP endpoint takes
the place of all the others. -/
theorem endpointOf_mergeInto {existing : Option ListenConfiguration}
    {endpoint : ListenEndpoint} {merged : ListenConfiguration}
    (alone : endpoint.endpointType = .tcp → ∀ host,
      existing.bind (·.endpointOf host) ≠ none → host = endpoint.hostEndpoint.src)
    (taken : endpoint.mergeInto existing = .ok merged) (host : Str) :
    merged.endpointOf host =
      if endpoint.hostEndpoint.src = host then some endpoint
      else existing.bind (·.endpointOf host) := by
  cases endpoint with
  | tcp config =>
    cases taken
    change (if config.hostEndpoint.src = host then _ else _) =
      if config.hostEndpoint.src = host then _ else _
    split
    case isTrue _ => rfl
    case isFalse other =>
      by_contra present
      exact other (alone rfl host (Ne.symm present)).symm
  | http info =>
    obtain ⟨config, mergedHttp, made⟩ := bind_eq_ok_iff.mp taken
    cases made
    rw [endpointOf_ofHttp]
    have inserted : ∀ {old : HttpListenPortConfiguration}, checkEndpointType old info >>= (fun _ =>
          pure (old.insertOrReplaceConfiguration info)) = .ok config →
        (config.endpoints.find? fun other =>
          other.hostEndpoint.src = host).map http =
        if info.hostEndpoint.src = host then some (.http info)
        else (old.endpoints.find? fun other =>
          other.hostEndpoint.src = host).map .http := by
      intro old result
      obtain ⟨_, _, made⟩ := bind_eq_ok_iff.mp result
      cases made
      rw [insertOrReplaceConfiguration, find?_replaceOrPush]
      split <;> rfl
    cases existing with
    | none =>
      cases mergedHttp
      by_cases same : info.hostEndpoint.src = host <;>
        simp [new, hostEndpoint, same]
    | some configuration =>
      cases configuration with
      | http old => exact inserted mergedHttp
      | tcp old => cases mergedHttp
      | mcp old => exact inserted mergedHttp

/-! ## No update is lost -/

namespace HostUpdates

/-- What the calls that have succeeded so far have left of the configuration
they started from. -/
structure Kept (scripts : HostScripts) (initial : AppConfigurationInner)
    (state : HostUpdates) : Prop where
  updated : ∀ call ∈ state.calls, call.stage = .succeeded →
    ∃ endpoint, compileEndpoint scripts call.hostEndpoint call.hostSettings = .ok endpoint ∧
      state.config.endpointAt call.hostEndpoint.getPort call.hostEndpoint.src = some endpoint
  others : ∀ port host,
    (∀ call ∈ state.calls, call.stage = .succeeded →
      call.hostEndpoint.getPort = port → call.hostEndpoint.src ≠ host) →
    state.config.endpointAt port host = initial.endpointAt port host

/-- A call writes only if nobody has written its port since it read it, and a
host of type `tcp` only to a port without an endpoint of another host. -/
def Undisturbed (state : HostUpdates) : Event → Prop
  | .written call existing =>
    state.config.listenEndpoints call.hostEndpoint.getPort = existing ∧
      (call.hostSettings.endpoint.getEndpointType = .ok .tcp → ∀ host,
        state.config.endpointAt call.hostEndpoint.getPort host ≠ none →
          host = call.hostEndpoint.src)
  | _ => True

section

variable {scripts : HostScripts} {initial : AppConfigurationInner} {state : HostUpdates}

theorem endpointAt_of_written {call : UpdateCall} {existing : Option ListenConfiguration}
    {configuration : ListenConfiguration}
    (undisturbed : Undisturbed state (.written call existing))
    (compiled : compileHostConfiguration scripts call.hostEndpoint
      call.hostSettings existing = .ok configuration) :
    ∃ endpoint, compileEndpoint scripts call.hostEndpoint call.hostSettings = .ok endpoint ∧
      ∀ port host,
        (state.config.writeHost call.hostEndpoint configuration).endpointAt port host =
          if call.hostEndpoint.getPort = port ∧ call.hostEndpoint.src = host
          then some endpoint else state.config.endpointAt port host := by
  rw [compileHostConfiguration_eq] at compiled
  obtain ⟨endpoint, ofHost, taken⟩ := bind_eq_ok_iff.mp compiled
  obtain ⟨named, typed⟩ := compileEndpoint_names ofHost
  obtain ⟨asRead, alone⟩ := undisturbed
  refine ⟨endpoint, ofHost, ?_⟩
  intro port host
  by_cases here : call.hostEndpoint.getPort = port
  · subst here
    have onlyHost : endpoint.endpointType = .tcp → ∀ other,
        existing.bind (·.endpointOf other) ≠ none → other = endpoint.hostEndpoint.src := by
      intro isTcp other present
      rw [named]
      refine alone (isTcp ▸ typed) other ?_
      rw [endpointAt, asRead]
      exact present
    have merged := endpointOf_mergeInto onlyHost taken host
    rw [named, ← asRead] at merged
    simpa [endpointAt, writeHost]
      using merged
  · simp [endpointAt, writeHost,
      here, update_of_ne (Ne.symm here)]

/-- A call that has not succeeded leaves no trace. -/
theorem Kept.of_same {next : HostUpdates} (kept : Kept scripts initial state)
    (config : next.config = state.config)
    (calls : ∀ call, call.stage = .succeeded → (call ∈ next.calls ↔ call ∈ state.calls)) :
    Kept scripts initial next := by
  refine ⟨?_, ?_⟩
  · intro call member succeeded
    rw [config]
    exact kept.updated call ((calls call succeeded).mp member) succeeded
  · intro port host untouched
    rw [config]
    refine kept.others port host fun call member succeeded => ?_
    exact untouched call ((calls call succeeded).mpr member) succeeded

theorem Kept.written {before after : List UpdateCall} {call : UpdateCall}
    {existing : Option ListenConfiguration}
    {configuration : ListenConfiguration} (kept : Kept scripts initial state)
    (different : (state.calls.map (·.hostEndpoint.src)).Nodup)
    (undisturbed : Undisturbed state (.written call existing))
    (running : state.calls = before ++ call :: after)
    (stage : call.stage = .compiling existing)
    (compiled : compileHostConfiguration scripts call.hostEndpoint
      call.hostSettings existing = .ok configuration) :
    Kept scripts initial
      { config := state.config.writeHost call.hostEndpoint configuration
        calls := before ++ { call with stage := .succeeded } :: after } := by
  obtain ⟨endpoint, ofHost, written⟩ := endpointAt_of_written undisturbed compiled
  have apart : ∀ other ∈ before ++ after, call.hostEndpoint.src ≠ other.hostEndpoint.src := by
    rw [running, (perm_middle.map _).nodup_iff, map_cons, nodup_cons] at different
    intro other member same
    exact different.1 (same ▸ mem_map_of_mem member)
  refine ⟨?_, ?_⟩
  · intro other member succeeded
    rcases mem_cons.mp (perm_middle.mem_iff.mp member) with
      rfl | isOther
    · exact ⟨endpoint, ofHost, by simp [written]⟩
    have wasThere : other ∈ state.calls := by
      rw [running]
      exact perm_middle.mem_iff.mpr (mem_cons_of_mem _ isOther)
    obtain ⟨ofOther, compiledOther, found⟩ := kept.updated other wasThere succeeded
    refine ⟨ofOther, compiledOther, ?_⟩
    rw [written, if_neg fun both => apart other isOther both.2]
    exact found
  · intro port host untouched
    have notThis := untouched { call with stage := .succeeded } (by simp) rfl
    rw [written, if_neg fun both => notThis both.1 both.2]
    refine kept.others port host fun other member succeeded => ?_
    rw [running] at member
    rcases mem_cons.mp (perm_middle.mem_iff.mp member) with
      rfl | isOther
    · rw [stage] at succeeded
      cases succeeded
    · exact untouched other (perm_middle.mem_iff.mpr
        (mem_cons_of_mem _ isOther)) succeeded

theorem Kept.step {event : Event} {next : HostUpdates} (kept : Kept scripts initial state)
    (different : (state.calls.map (·.hostEndpoint.src)).Nodup)
    (undisturbed : Undisturbed state event)
    (stepped : Step scripts state event next) :
    Kept scripts initial next ∧ (next.calls.map (·.hostEndpoint.src)).Nodup := by
  cases stepped with
  | started hostEndpoint hostSettings fresh =>
    refine ⟨kept.of_same rfl ?_, ?_⟩
    · intro call succeeded
      simp only [mem_append, mem_singleton]
      refine or_iff_left ?_
      rintro rfl
      cases succeeded
    · rw [map_append, nodup_append]
      refine ⟨different, by simp, ?_⟩
      intro host member other isNew same
      obtain ⟨call, present, rfl⟩ := mem_map.mp member
      exact fresh call present (same.trans (mem_singleton.mp isNew))
  | written running stage compiled =>
    refine ⟨kept.written different undisturbed running stage compiled, ?_⟩
    rw [running] at different
    simpa using different
  | @failed before after failing existing err running stage refused =>
    refine ⟨kept.of_same rfl ?_, ?_⟩
    · intro call succeeded
      have notBefore : call ≠ failing := by
        rintro rfl
        rw [stage] at succeeded
        cases succeeded
      have notAfter : call ≠ { failing with stage := .failed err } := by
        rintro rfl
        cases succeeded
      simp [running, notBefore, notAfter]
    · rw [running] at different
      simpa using different

/-- In every run in which a call writes only if nobody has written its port
since it read it, and a host of type `tcp` only to a port without an endpoint
of another host, the ports have every updated host in its updated form and
every other endpoint unchanged. -/
theorem kept_of_run {last : HostUpdates}
    (run : Run (Step scripts) Undisturbed { config := initial } last) :
    Kept scripts initial last := by
  have both : Kept scripts initial last ∧ (last.calls.map (·.hostEndpoint.src)).Nodup := by
    apply run.invariant
    · exact ⟨⟨by simp, fun _ _ _ => rfl⟩, by simp⟩
    · rintro state event next ⟨kept, different⟩ undisturbed stepped
      exact kept.step different undisturbed stepped
  exact both.1

end

/-! ## Two hosts of one port -/

private def hostOf443 (name : Char) : EndpointHttpHostString :=
  { src := name :: ":443".toList
    port := some 443
    index := some 1 }

private def updateOf (name : Char) (stage : UpdateStage) : UpdateCall :=
  { hostEndpoint := hostOf443 name
    hostSettings := bareHost "https"
    stage }

/-- One call after the other. -/
theorem kept_of_run_sequential :
    ∃ last : HostUpdates, Run (Step bareScripts) Undisturbed { config := {} } last ∧
      last.calls = [updateOf 'a' .succeeded, updateOf 'b' .succeeded] ∧
      Kept bareScripts {} last := by
  have firstRead : Run (Step bareScripts) Undisturbed { config := {} } _ :=
    step (start _) (by trivial) (.started _ (hostOf443 'a') (bareHost "https") (by simp))
  have firstWritten := step firstRead (by exact ⟨rfl, fun isTcp => absurd isTcp (by decide)⟩)
    (.written (nil_append _).symm rfl rfl)
  have secondRead := step firstWritten (by trivial)
    (.started _ (hostOf443 'b') (bareHost "https") (by decide))
  have secondWritten := step secondRead (by exact ⟨rfl, fun isTcp => absurd isTcp (by decide)⟩)
    (.written (show _ = [_] ++ _ :: [] from rfl) rfl rfl)
  exact ⟨_, secondWritten, rfl, kept_of_run secondWritten⟩

/-- The second of two calls that have read the same configuration writes over
the host of the first. -/
theorem overlapping_update_lost :
    ∃ last : HostUpdates, Run (Step bareScripts) (fun _ _ => True) { config := {} } last ∧
      last.calls = [updateOf 'a' .succeeded, updateOf 'b' .succeeded] ∧
      last.config.endpointAt (.tcp 443) "a:443".toList = none := by
  have firstRead : Run (Step bareScripts) (fun _ _ => True) { config := {} } _ :=
    step (start _) trivial (.started _ (hostOf443 'a') (bareHost "https") (by simp))
  have secondRead := step firstRead trivial
    (.started _ (hostOf443 'b') (bareHost "https") (by decide))
  have firstWritten := step secondRead trivial (.written (nil_append _).symm rfl rfl)
  have secondWritten := step firstWritten trivial
    (.written (show _ = [_] ++ _ :: [] from rfl) rfl rfl)
  exact ⟨_, secondWritten, rfl, by decide⟩

end HostUpdates

end ReverseProxy
