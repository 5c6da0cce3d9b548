import GuestInventory.Proofs.Admission
import GuestInventory.Proofs.Arguments

/-!
Where a URI leads, and under what name the session is opened there. About the socket the ending of
the URI decides before its beginning does; about the name nothing but the beginning decides. The
two agree unless a URI begins as the path of a socket and ends as a default URI does: it leads to
a default socket and not to the one at the path, and the session is opened there without a name.
-/
namespace GuestInventory.Remote

def EndsAsDefault (uri : String) : Prop :=
  "///system".toList <:+ uri.toList ∨ "///session".toList <:+ uri.toList

instance (uri : String) : Decidable (EndsAsDefault uri) := inferInstanceAs (Decidable (_ ∨ _))

/-- No URI has both of the endings. -/
theorem not_system_of_session {chars : List Char} (h : "///session".toList <:+ chars) :
    ¬ "///system".toList <:+ chars := by
  intro hsystem
  rcases List.suffix_or_suffix_of_suffix h hsystem with h | h
  · exact absurd h (by decide)
  · exact absurd h (by decide)

theorem hasPathForm_iff {uri : String} :
    hasPathForm uri = true ↔ ['/'] <+: uri.toList ∨ pathScheme <+: uri.toList := by
  rw [hasPathForm, Bool.or_eq_true, List.isPrefixOf_iff_prefix, List.isPrefixOf_iff_prefix]

theorem pathScheme_prefix_iff {uri : String} :
    pathScheme <+: uri.toList ↔ ∃ p, uri = "unix://" ++ p := by
  constructor
  · rintro ⟨rest, hrest⟩
    refine ⟨String.ofList rest, String.toList_inj.mp ?_⟩
    rw [String.toList_append, ← hrest]
    exact congrArg (pathScheme ++ ·) String.toList_ofList.symm
  · rintro ⟨p, rfl⟩
    exact ⟨p.toList, String.toList_append.symm⟩

theorem not_pathScheme_prefix {uri : String} (h : ['/'] <+: uri.toList) :
    ¬ pathScheme <+: uri.toList := by
  intro hscheme
  rcases List.prefix_or_prefix_of_prefix h hscheme with h | h
  · exact absurd h (by decide)
  · exact absurd h (by decide)

namespace Endpoint

/-- The ways for a URI to mean a socket. -/
inductive MeantBy (uri : String) : Endpoint → Prop
  | system (hend : "///system".toList <:+ uri.toList) : MeantBy uri .system
  | session (hend : "///session".toList <:+ uri.toList) : MeantBy uri .session
  | plain (hend : ¬ EndsAsDefault uri) (hroot : ['/'] <+: uri.toList) : MeantBy uri (.path uri)
  | schemed {p : String} (hend : ¬ EndsAsDefault uri) (huri : uri = "unix://" ++ p) :
      MeantBy uri (.path p)

theorem ofUri?_of_endless {uri : String} (h : ¬ EndsAsDefault uri) :
    ofUri? uri =
      if hasPathForm uri then
        if pathScheme.isPrefixOf uri.toList then
          some (path (String.ofList (uri.toList.drop pathScheme.length)))
        else some (path uri)
      else none := by
  obtain ⟨hsystem, hsession⟩ := not_or.mp h
  rw [← List.isSuffixOf_iff_suffix] at hsystem hsession
  rw [ofUri?, if_neg hsystem, if_neg hsession]

theorem MeantBy.ofUri?_eq {uri : String} {endpoint : Endpoint} (h : endpoint.MeantBy uri) :
    ofUri? uri = some endpoint := by
  cases h with
  | system hend => rw [ofUri?, if_pos (List.isSuffixOf_iff_suffix.mpr hend)]
  | session hend =>
    have hsystem := not_system_of_session hend
    rw [← List.isSuffixOf_iff_suffix] at hsystem
    rw [ofUri?, if_neg hsystem, if_pos (List.isSuffixOf_iff_suffix.mpr hend)]
  | plain hend hroot =>
    have hscheme := not_pathScheme_prefix hroot
    rw [← List.isPrefixOf_iff_prefix] at hscheme
    rw [ofUri?_of_endless hend, if_pos (hasPathForm_iff.mpr (.inl hroot)), if_neg hscheme]
  | @schemed p hend huri =>
    have hscheme := pathScheme_prefix_iff.mpr ⟨p, huri⟩
    have hchars : uri.toList = pathScheme ++ p.toList := by
      rw [huri]
      exact String.toList_append
    have hp : String.ofList (uri.toList.drop pathScheme.length) = p := by
      rw [hchars, List.drop_left, String.ofList_toList]
    rw [ofUri?_of_endless hend, if_pos (hasPathForm_iff.mpr (.inr hscheme)),
      if_pos (List.isPrefixOf_iff_prefix.mpr hscheme), hp]

theorem meantBy_of_ofUri? {uri : String} {endpoint : Endpoint} (h : ofUri? uri = some endpoint) :
    endpoint.MeantBy uri := by
  by_cases hsystem : "///system".toList <:+ uri.toList
  · cases (MeantBy.system hsystem).ofUri?_eq.symm.trans h
    exact .system hsystem
  by_cases hsession : "///session".toList <:+ uri.toList
  · cases (MeantBy.session hsession).ofUri?_eq.symm.trans h
    exact .session hsession
  have hend : ¬ EndsAsDefault uri := not_or.mpr ⟨hsystem, hsession⟩
  by_cases hform : hasPathForm uri = true
  · rcases hasPathForm_iff.mp hform with hroot | hscheme
    · cases (MeantBy.plain hend hroot).ofUri?_eq.symm.trans h
      exact .plain hend hroot
    · obtain ⟨p, huri⟩ := pathScheme_prefix_iff.mp hscheme
      cases (MeantBy.schemed hend huri).ofUri?_eq.symm.trans h
      exact .schemed hend huri
  · rw [ofUri?_of_endless hend, if_neg hform] at h
    cases h

/-- The slashes of the scheme count for the ending. -/
example : ofUri? "unix:///system" = some system := by decide

end Endpoint

namespace Session

open Connection

def OpensUnder (name : Option String) (frame : Bytes) : Prop :=
  ∃ n, Carries (.opening { name, flags := 0 }) .connectOpen n frame

/-- A frame opens a session under no other name. -/
theorem OpensUnder.iff_eq {name name' : Option String} {frame : Bytes} (h : OpensUnder name frame) :
    OpensUnder name' frame ↔ name' = name := by
  constructor
  · rintro ⟨n', h'⟩
    obtain ⟨n, h⟩ := h
    cases h'.arguments_eq h rfl
    rfl
  · rintro rfl
    exact h

/-- Connecting by `uri` goes over the socket at `path`: it fails on what is in the way there, and
comes to what opening `uri` over the socket comes to. -/
structure Addresses (host : Host) (uri path : String) : Prop where
  unreached : ∀ obstacle, host.reach path = .error obstacle →
    connect host uri = .error ⟨.noSocket path obstacle, none⟩
  unopened : ∀ socket cause c, host.reach path = .ok socket →
    start uri { socket } = .error cause c → connect host uri = .error ⟨cause, some c⟩
  opened : ∀ socket c, host.reach path = .ok socket →
    start uri { socket } = .ok () c → connect host uri = .ok c

def framesSent : Except Refusal Connection → List Bytes
  | .ok c => c.socket.sent.toList
  | .error ⟨_, some c⟩ => c.socket.sent.toList
  | .error ⟨_, none⟩ => []

def Opening (host : Host) (uri : String) (frame : Bytes) : Prop :=
  frame ∈ framesSent (connect host uri) ∧ Procedure.connectOpen.CalledBy frame

variable {host : Host} {uri path : String} {endpoint : Endpoint} {socket : Socket} {frame : Bytes}

theorem connect_of_unsupported (h : Endpoint.ofUri? uri = none) :
    connect host uri = .error ⟨.unsupportedUri uri, none⟩ := by
  simp only [connect, h]

theorem addresses_of_meantBy (host : Host) (h : endpoint.MeantBy uri) :
    Addresses host uri (host.socketPath endpoint) where
  unreached obstacle hreach := by simp only [connect, h.ofUri?_eq, hreach]
  unopened socket cause c hreach hstart := by simp only [connect, h.ofUri?_eq, hreach, hstart]
  opened socket c hreach hstart := by simp only [connect, h.ofUri?_eq, hreach, hstart]

/-- Every URI that means a socket is accepted, whatever becomes of the attempt. -/
theorem connect_ne_unsupported (host : Host) (h : endpoint.MeantBy uri) :
    connect host uri ≠ .error ⟨.unsupportedUri uri, none⟩ := by
  have haddresses := addresses_of_meantBy host h
  cases hreach : host.reach (host.socketPath endpoint) with
  | error obstacle =>
    rw [haddresses.unreached obstacle hreach]
    simp
  | ok socket =>
    cases hstart : start uri { socket } with
    | ok opened c =>
      rw [haddresses.opened socket c hreach hstart]
      simp
    | error cause c =>
      rw [haddresses.unopened socket cause c hreach hstart]
      simp

theorem exists_meantBy (h : connect host uri ≠ .error ⟨.unsupportedUri uri, none⟩) :
    ∃ endpoint : Endpoint, endpoint.MeantBy uri := by
  cases hendpoint : Endpoint.ofUri? uri with
  | none => exact absurd (connect_of_unsupported hendpoint) h
  | some endpoint => exact ⟨endpoint, Endpoint.meantBy_of_ofUri? hendpoint⟩

theorem Addresses.framesSent_eq (h : Addresses host uri path)
    (hreach : host.reach path = .ok socket) :
    framesSent (connect host uri) = (stateAfter (start uri { socket })).socket.sent.toList := by
  cases hstart : start uri { socket } with
  | ok opened c => rw [h.opened socket c hreach hstart, framesSent, stateAfter]
  | error cause c => rw [h.unopened socket cause c hreach hstart, framesSent, stateAfter]

theorem opensUnder_outgo {c : Connection}
    (h : frame ∈ (c.outgo .connectOpen (opening uri).datum.wire).toList) :
    OpensUnder (openedName uri) frame := by
  have hframe := calledWith_of_outgo (Option.mem_toList.mp h)
  exact ⟨c.serial, carries_of_calledWith (opening uri).plain.encode hframe⟩

/-- Over whatever socket, a session is opened under the name that the URI has for it. -/
theorem Addresses.opensUnder (h : Addresses host uri path) (hframe : Opening host uri frame) :
    OpensUnder (openedName uri) frame := by
  obtain ⟨hmem, hcalled⟩ := hframe
  cases hreach : host.reach path with
  | error obstacle =>
    rw [h.unreached obstacle hreach] at hmem
    cases hmem
  | ok socket =>
    obtain ⟨unread, rfl⟩ := Host.reach_fresh hreach
    obtain ⟨frames, hsent, hin, hframes⟩ := exists_frames uri { socket := { unread } }
    rw [h.framesSent_eq hreach, hsent] at hmem
    have hmem : frame ∈ frames := by simpa using hmem
    obtain ⟨before, c', hletIn⟩ := hin frame hmem hcalled
    rw [(hframes before c' hletIn).1] at hmem
    -- The frames in front are the questions; what is behind them, if anything, is the opening.
    rcases List.mem_append.mp hmem with hbefore | hopening
    · exact absurd hcalled (hletIn.not_calledBy frame hbefore)
    · exact opensUnder_outgo hopening

/-- A caller who is let in sends an opening, if it is not too large to be sent. -/
theorem Addresses.exists_opening (h : Addresses host uri path)
    (hreach : host.reach path = .ok socket) {before : List Bytes} {c' : Connection}
    (hin : LetIn { socket } before c')
    (hsize : 28 + (opening uri).datum.wire.length ≤ packetMaximum) :
    ∃ frame, Opening host uri frame := by
  obtain ⟨unread, rfl⟩ := Host.reach_fresh hreach
  have hsend : c'.socket.CanSend := hin.canSend ⟨rfl, rfl⟩
  have houtgo : c'.outgo .connectOpen (opening uri).datum.wire =
      some (c'.outgoing .connectOpen (opening uri).datum.wire).frame := if_pos ⟨hsize, hsend⟩
  refine ⟨(c'.outgoing .connectOpen (opening uri).datum.wire).frame, ?_,
    c'.outgoing .connectOpen (opening uri).datum.wire, Packet.decode_body rfl, rfl⟩
  rw [h.framesSent_eq hreach, start_of_letIn uri hin, houtgo]
  simp

/-- An opening goes by the name that its socket calls for: by the URI over a default socket, and by
none over the socket at a path that the URI gives. -/
structure NamedFor (uri : String) (endpoint : Endpoint) (frame : Bytes) : Prop where
  named : OpensUnder (some uri) frame ↔ endpoint = .system ∨ endpoint = .session
  unnamed : OpensUnder none frame ↔ ∃ p, endpoint = .path p

/-- A URI that begins as the path of a socket and ends as a default URI. -/
def Misleading (uri : String) : Prop := hasPathForm uri = true ∧ EndsAsDefault uri

theorem openedName_of_path {p : String} (h : (Endpoint.path p).MeantBy uri) :
    openedName uri = none := by
  refine if_pos (hasPathForm_iff.mpr ?_)
  cases h with
  | plain hend hroot => exact .inl hroot
  | schemed hend huri => exact .inr (pathScheme_prefix_iff.mpr ⟨p, huri⟩)

theorem openedName_of_default (h : endpoint = .system ∨ endpoint = .session)
    (hmeant : endpoint.MeantBy uri) (hclear : ¬ Misleading uri) : openedName uri = some uri := by
  have hend : EndsAsDefault uri := by
    rcases h with rfl | rfl
    · cases hmeant with
      | system hend => exact .inl hend
    · cases hmeant with
      | session hend => exact .inr hend
  exact if_neg fun hform => hclear ⟨hform, hend⟩

theorem namedFor_of_clear (hmeant : endpoint.MeantBy uri) (hclear : ¬ Misleading uri)
    (hframe : OpensUnder (openedName uri) frame) : NamedFor uri endpoint frame := by
  cases endpoint with
  | path p =>
    rw [openedName_of_path hmeant] at hframe
    exact ⟨by simp [hframe.iff_eq], by simp [hframe.iff_eq]⟩
  | system =>
    rw [openedName_of_default (.inl rfl) hmeant hclear] at hframe
    exact ⟨by simp [hframe.iff_eq], by simp [hframe.iff_eq]⟩
  | session =>
    rw [openedName_of_default (.inr rfl) hmeant hclear] at hframe
    exact ⟨by simp [hframe.iff_eq], by simp [hframe.iff_eq]⟩

/-- A misleading URI leads to a default socket all the same. -/
theorem default_of_misleading (hmeant : endpoint.MeantBy uri) (h : Misleading uri) :
    endpoint = .system ∨ endpoint = .session := by
  cases hmeant with
  | system => exact .inl rfl
  | session => exact .inr rfl
  | plain hend hroot => exact absurd h.2 hend
  | schemed hend huri => exact absurd h.2 hend

/-- Connecting by any URI, on any host. The path of a socket leads there, with or without its
scheme, and no name is given there, unless it ends as a default URI does. A URI that is accepted
means one socket and goes over it, and where an opening is sent, its name is the URI over a default
socket and none over one at a path; only a URI that begins as a path and ends as a default URI
leads to a default socket and opens it without a name. -/
theorem name_follows_socket (host : Host) (uri : String) :
    (∀ p : String, ['/'] <+: p.toList → uri = p ∨ uri = "unix://" ++ p → ¬ EndsAsDefault uri →
      Addresses host uri p ∧ ∀ frame, Opening host uri frame → OpensUnder none frame) ∧
    (connect host uri ≠ .error ⟨.unsupportedUri uri, none⟩ →
      ∃ endpoint : Endpoint, endpoint.MeantBy uri ∧ Addresses host uri (host.socketPath endpoint) ∧
        (∀ frame, Opening host uri frame →
          (¬ Misleading uri → NamedFor uri endpoint frame) ∧
          (Misleading uri →
            (endpoint = .system ∨ endpoint = .session) ∧ OpensUnder none frame)) ∧
        ∀ socket before c', host.reach (host.socketPath endpoint) = .ok socket →
          LetIn { socket } before c' → 28 + (opening uri).datum.wire.length ≤ packetMaximum →
          ∃ frame, Opening host uri frame) := by
  constructor
  · intro p hroot huri hend
    have hmeant : (Endpoint.path p).MeantBy uri := by
      rcases huri with rfl | huri
      · exact .plain hend hroot
      · exact .schemed hend huri
    have haddresses := addresses_of_meantBy host hmeant
    refine ⟨haddresses, fun frame hframe => ?_⟩
    rw [← openedName_of_path hmeant]
    exact haddresses.opensUnder hframe
  · intro haccepted
    obtain ⟨endpoint, hmeant⟩ := exists_meantBy haccepted
    have haddresses := addresses_of_meantBy host hmeant
    refine ⟨endpoint, hmeant, haddresses, fun frame hframe => ⟨fun hclear => ?_, fun h => ?_⟩, ?_⟩
    · exact namedFor_of_clear hmeant hclear (haddresses.opensUnder hframe)
    · have hname : openedName uri = none := if_pos h.1
      rw [← hname]
      exact ⟨default_of_misleading hmeant h, haddresses.opensUnder hframe⟩
    · intro socket before c' hreach hin hsize
      exact haddresses.exists_opening hreach hin hsize

def welcome : Bytes := (Packet.reply Procedure.authList.number 1 .ok (schemeWords [])).frame

theorem letIn_welcome :
    ∃ c', LetIn { socket := { unread := welcome } } [asking .authList 1] c' := by
  let reply := Packet.reply Procedure.authList.number 1 .ok (schemeWords [])
  have hreply : reply.RepliesTo .authList 1 := ⟨⟨rfl, by decide⟩, rfl, rfl, rfl, rfl⟩
  have hlist : Brings .authList 1 (schemeWords []) [] welcome :=
    ⟨[], reply, [], List.forall_mem_nil _, hreply, rfl, (List.append_nil _).symm⟩
  have hread : Xdr.Reads SchemeList.read (schemeWords []) ⟨[]⟩ :=
    SchemeList.reads_words (by decide)
  obtain ⟨c', hlist, -⟩ :=
    request_brought (c := { socket := { unread := welcome } }) encode_void ⟨rfl, rfl⟩ hlist hread
  exact ⟨c', .free hlist (.inl rfl)⟩

/-- One URI of each sort, over a socket that lets the caller in. -/
theorem name_follows_socket_welcome :
    let rooted : Host := { sockets := [("/s", welcome)] }
    let whole : Host := { sockets := [("/var/run/libvirt/libvirt-sock", welcome)] }
    (Addresses rooted "unix:///s" "/s" ∧
      ∃ frame, Opening rooted "unix:///s" frame ∧ OpensUnder none frame) ∧
    ∃ frame, Opening whole "qemu:///system" frame ∧ OpensUnder (some "qemu:///system") frame := by
  intro rooted whole
  obtain ⟨c', hin⟩ := letIn_welcome
  have hrooted : rooted.reach "/s" = .ok { unread := welcome } := Host.reach_single welcome
  have hwhole : whole.reach (whole.socketPath .system) = .ok { unread := welcome } := by
    have hsteps : Host.steps "/var/run/libvirt/libvirt-sock" =
        ["", "var", "run", "libvirt", "libvirt-sock"] := by decide
    have hplaces : Host.plainSteps "/var/run/libvirt/libvirt-sock" =
        ["var", "run", "libvirt", "libvirt-sock"] := by decide
    rw [Host.socketPath, whole.reach_of_root (by decide) (by decide) (by decide), hsteps]
    simp [whole, Host.follow, Host.socketAt, Host.isDirectory, hplaces, Except.map]
  constructor
  · obtain ⟨hpath, -⟩ := name_follows_socket rooted "unix:///s"
    obtain ⟨haddresses, hnone⟩ := hpath "/s" (by decide) (.inr rfl) (by decide)
    obtain ⟨frame, hframe⟩ := haddresses.exists_opening hrooted hin (by decide)
    exact ⟨haddresses, frame, hframe, hnone frame hframe⟩
  · have hsystem : Endpoint.system.MeantBy "qemu:///system" := .system (by decide)
    obtain ⟨-, haccepted⟩ := name_follows_socket whole "qemu:///system"
    obtain ⟨endpoint, hmeant, -, hnames, hopens⟩ :=
      haccepted (connect_ne_unsupported whole hsystem)
    cases hsystem.ofUri?_eq.symm.trans hmeant.ofUri?_eq
    obtain ⟨frame, hframe⟩ := hopens _ _ c' hwhole hin (by decide)
    have hclear : ¬ Misleading "qemu:///system" := fun h => absurd h.1 (by decide)
    exact ⟨frame, hframe, ((hnames frame hframe).1 hclear).named.mpr (.inl rfl)⟩

def sessionHost : Host :=
  { runtimeDirectory := some "/d", sockets := [("/d/libvirt/libvirt-sock", welcome)] }

theorem sessionHost_reach : sessionHost.reach "/d///session" = .error .missing ∧
    sessionHost.reach (sessionHost.socketPath .session) = .ok { unread := welcome } := by
  have hplaces : Host.plainSteps "/d/libvirt/libvirt-sock" = ["d", "libvirt", "libvirt-sock"] := by
    decide
  constructor
  · have hsteps : Host.steps "/d///session" = ["", "d", "", "", "session"] := by decide
    rw [sessionHost.reach_of_root (by decide) (by decide) (by decide), hsteps]
    simp [sessionHost, Host.follow, Host.socketAt, Host.isDirectory, hplaces, Except.map]
  · have hpath : sessionHost.socketPath .session = "/d/libvirt/libvirt-sock" := by decide
    have hsteps : Host.steps "/d/libvirt/libvirt-sock" = ["", "d", "libvirt", "libvirt-sock"] := by
      decide
    rw [hpath, sessionHost.reach_of_root (by decide) (by decide) (by decide), hsteps]
    simp [sessionHost, Host.follow, Host.socketAt, Host.isDirectory, hplaces, Except.map]

/-- There is nothing at the path, and the session daemon is called instead of a failure; it is not
even told which URI it stands in for. -/
theorem path_misled_to_session :
    let path := "/d///session"
    ['/'] <+: path.toList ∧ sessionHost.reach path = .error .missing ∧
      ∀ uri, uri = path ∨ uri = "unix://" ++ path → ¬ Addresses sessionHost uri path ∧
        Endpoint.session.MeantBy uri ∧
        Addresses sessionHost uri (sessionHost.socketPath .session) ∧
        ∃ frame, Opening sessionHost uri frame ∧ OpensUnder none frame ∧
          ¬ NamedFor uri .session frame := by
  intro path
  obtain ⟨c', hin⟩ := letIn_welcome
  obtain ⟨hmissing, hreach⟩ := sessionHost_reach
  refine ⟨by decide, hmissing, fun uri huri => ?_⟩
  have hmisleading : hasPathForm uri = true ∧ "///session".toList <:+ uri.toList := by
    rcases huri with rfl | rfl
    · decide
    · decide
  obtain ⟨hform, hend⟩ := hmisleading
  have hmeant : Endpoint.session.MeantBy uri := .session hend
  have haddresses := addresses_of_meantBy sessionHost hmeant
  have hname : openedName uri = none := if_pos hform
  have hsize : 28 + (opening uri).datum.wire.length ≤ packetMaximum := by
    rw [opening, hname]
    decide
  obtain ⟨frame, hframe⟩ := haddresses.exists_opening hreach hin hsize
  have hopens := haddresses.opensUnder hframe
  rw [hname] at hopens
  refine ⟨fun hwrong => ?_, hmeant, haddresses, frame, hframe, hopens, fun hnamed => ?_⟩
  · have hsent := hframe.1
    rw [hwrong.unreached .missing hmissing] at hsent
    cases hsent
  · have huri := hopens.iff_eq.mp (hnamed.named.mpr (.inr rfl))
    cases huri

end Session

end GuestInventory.Remote
