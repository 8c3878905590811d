import Mbv.Input.KeyRouting

namespace Mbv.Input

open Surfaces List

/-! ### The snapshot -/

inductive RemoteControlTarget where
  | none
  | directRemote
deriving DecidableEq

structure RouterPlaybackState where
  playerActive : Bool := false
  remoteTarget : RemoteControlTarget := .none
  queueOnlyIdle : Bool := false
  idleFeedLinkAvailable : Bool := false

inductive OverlayFocus where
  | free
  | nonBlocking
  | blocking
  | contextMenu
deriving DecidableEq

namespace OverlayFocus

def isBlocking : OverlayFocus → Bool
  | blocking | contextMenu => true
  | _ => false

def holdsFocus (focus : OverlayFocus) : Bool := focus ≠ free

def isContextMenu (focus : OverlayFocus) : Bool := focus = contextMenu

end OverlayFocus

structure RouterOverlayState where
  focus : OverlayFocus := .free
  help : Bool := false
  sessionsSidebar : Bool := false
  textEntryFocused : Bool := false

inductive PanelMode where
  | both
  | libraryOnly
  | queueOnly
deriving DecidableEq

inductive PanelFocus where
  | queue
  | library
deriving DecidableEq

structure RouterSnapshot where
  playback : RouterPlaybackState := {}
  overlays : RouterOverlayState := {}
  panelMode : PanelMode := .both
  panelFocus : PanelFocus := .library

/-! ### The policy -/

inductive Command where
  | toggleSettings | openSessions | openPlaylists | openSearch | openTwitchUrl | openHelp | quit
  | focusPanel (panel : PanelFocus)
  | cyclePanelMode | forceClear | requestClearQueue | refreshCurrentView | toggleVisualizer
  | toggleVisualSlotHidden | nextLibraryTab | previousLibraryTab
  | setLibraryTab (tab : Nat)
  | togglePlayPause | stop
  | seekRelative (seconds : Int)
  | nextTrack | previousTrack
  | adjustVolume (step : Int)
  | toggleMute | cycleAudio | cycleOrToggleSubtitle | openIdleFeedLink
deriving DecidableEq

inductive KeyPolicyBinding where
  | settingsOpen | sessionsOpen | sessionsDismiss | sessionsSidebarTransfer | playlistsOpen
  | searchOpen | twitchUrlOpen | helpOpen | quit | nextLibraryTab | previousLibraryTab
  | libraryTabJump | panelRight | panelLeft | altNextLibraryTab | altPreviousLibraryTab | altSwallow
  | queueColumnWidth | panelModeCycle | clearQueue | visualizer | hideVisualSlot | togglePlayPause
  | stop | seekBack | seekForward | nextTrack | previousTrack | volumeDown | volumeUp | toggleMute
  | cycleAudio | cycleSubtitle | openIdleFeedLink | ctrlL | f5 | prefixArm
deriving DecidableEq

inductive KeyPolicyGate where
  | noBlockingOverlay | noBlockingOverlayAndHelpClosed | panelFocusQueue | panelFocusLibraryBoth
  | queueColumnWidth | clearQueuePrompt | sessionsSidebarOpen | playback | playbackUngated
  | idleFeedLink | prefixArming

def volumeStep : Int := 5

def idleFeedCommandForKey (chord : KeyChord) (playback : RouterPlaybackState) : Option Command :=
  if chord = ⟨.char 'o', {}⟩ && !playback.playerActive && !playback.queueOnlyIdle &&
      playback.idleFeedLinkAvailable then some .openIdleFeedLink
  else none

def KeyPolicyGate.allows (gate : KeyPolicyGate) (chord : KeyChord) (snapshot : RouterSnapshot) :
    Bool :=
  let overlays := snapshot.overlays
  let unblocked := !overlays.focus.isBlocking
  match gate with
  | noBlockingOverlay => unblocked
  | noBlockingOverlayAndHelpClosed => unblocked && !overlays.help
  | panelFocusQueue =>
    unblocked && !overlays.focus.holdsFocus && snapshot.panelFocus = .queue
  | panelFocusLibraryBoth =>
    unblocked && !overlays.focus.holdsFocus && snapshot.panelFocus = .library &&
      snapshot.panelMode = .both
  | queueColumnWidth => snapshot.panelMode = .both
  | clearQueuePrompt => unblocked && !overlays.focus.isContextMenu
  | sessionsSidebarOpen => overlays.sessionsSidebar
  | playback =>
    unblocked && !overlays.textEntryFocused &&
      (snapshot.playback.playerActive || snapshot.playback.remoteTarget ≠ .none)
  | playbackUngated | prefixArming => unblocked && !overlays.textEntryFocused
  | idleFeedLink =>
    unblocked && !overlays.textEntryFocused &&
      (idleFeedCommandForKey chord snapshot.playback).isSome

structure KeyPolicyEntry where
  name : String
  binding : KeyPolicyBinding
  gate : KeyPolicyGate

def keyPolicy : List KeyPolicyEntry :=
  [⟨"prefix_arm", .prefixArm, .prefixArming⟩,
    ⟨"settings_open", .settingsOpen, .noBlockingOverlay⟩,
    ⟨"sessions_open", .sessionsOpen, .noBlockingOverlay⟩,
    ⟨"playlists_open", .playlistsOpen, .noBlockingOverlay⟩,
    ⟨"search_open", .searchOpen, .noBlockingOverlay⟩,
    ⟨"twitch_url_open", .twitchUrlOpen, .noBlockingOverlay⟩,
    ⟨"help_open", .helpOpen, .noBlockingOverlayAndHelpClosed⟩,
    ⟨"quit", .quit, .noBlockingOverlay⟩,
    ⟨"next_library_tab", .nextLibraryTab, .noBlockingOverlay⟩,
    ⟨"previous_library_tab", .previousLibraryTab, .noBlockingOverlay⟩,
    ⟨"queue_column_width", .queueColumnWidth, .queueColumnWidth⟩,
    ⟨"panel_mode_cycle_x", .panelModeCycle, .noBlockingOverlay⟩,
    ⟨"clear_queue_prompt_c", .clearQueue, .clearQueuePrompt⟩,
    ⟨"visualizer", .visualizer, .noBlockingOverlay⟩,
    ⟨"sessions_sidebar_transfer", .sessionsSidebarTransfer, .sessionsSidebarOpen⟩,
    ⟨"hide_visual_slot", .hideVisualSlot, .noBlockingOverlay⟩,
    ⟨"sessions_sidebar_escape", .sessionsDismiss, .sessionsSidebarOpen⟩,
    ⟨"toggle_play_pause", .togglePlayPause, .playback⟩,
    ⟨"stop", .stop, .playback⟩,
    ⟨"seek_back", .seekBack, .playback⟩,
    ⟨"seek_forward", .seekForward, .playback⟩,
    ⟨"next_track", .nextTrack, .playback⟩,
    ⟨"previous_track", .previousTrack, .playback⟩,
    ⟨"volume_down", .volumeDown, .playbackUngated⟩,
    ⟨"volume_up", .volumeUp, .playbackUngated⟩,
    ⟨"toggle_mute", .toggleMute, .playbackUngated⟩,
    ⟨"cycle_audio", .cycleAudio, .playback⟩,
    ⟨"cycle_subtitle", .cycleSubtitle, .playbackUngated⟩,
    ⟨"open_idle_feed_link", .openIdleFeedLink, .idleFeedLink⟩,
    ⟨"ctrl_l_force_clear", .ctrlL, .noBlockingOverlay⟩,
    ⟨"f5_refresh", .f5, .noBlockingOverlay⟩,
    ⟨"panel_right", .panelRight, .panelFocusQueue⟩,
    ⟨"panel_left", .panelLeft, .panelFocusLibraryBoth⟩,
    ⟨"alt_previous_library_tab", .altPreviousLibraryTab, .noBlockingOverlay⟩,
    ⟨"alt_next_library_tab", .altNextLibraryTab, .noBlockingOverlay⟩,
    ⟨"alt_swallow", .altSwallow, .noBlockingOverlay⟩,
    ⟨"library_tab_jump", .libraryTabJump, .noBlockingOverlay⟩]

def commandForSimpleBinding : KeyPolicyBinding → Option Command
  | .settingsOpen => some .toggleSettings
  | .sessionsOpen => some .openSessions
  | .playlistsOpen => some .openPlaylists
  | .searchOpen => some .openSearch
  | .twitchUrlOpen => some .openTwitchUrl
  | .helpOpen => some .openHelp
  | .quit => some .quit
  | .panelRight => some (.focusPanel .library)
  | .panelLeft => some (.focusPanel .queue)
  | .panelModeCycle => some .cyclePanelMode
  | .ctrlL => some .forceClear
  | .clearQueue => some .requestClearQueue
  | .f5 => some .refreshCurrentView
  | .visualizer => some .toggleVisualizer
  | .hideVisualSlot => some .toggleVisualSlotHidden
  | _ => none

def commandForNavigationBinding (binding : KeyPolicyBinding) (key : KeyChord) : Option Command :=
  match binding with
  | .nextLibraryTab | .altNextLibraryTab => some .nextLibraryTab
  | .previousLibraryTab | .altPreviousLibraryTab => some .previousLibraryTab
  | .libraryTabJump =>
    match key.code with
    | .char c =>
      if '1'.toNat ≤ c.toNat ∧ c.toNat ≤ '9'.toNat then some (.setLibraryTab (c.toNat - '1'.toNat))
      else none
    | _ => none
  | _ => none

def commandForTransportBinding : KeyPolicyBinding → Option Command
  | .togglePlayPause => some .togglePlayPause
  | .stop => some .stop
  | .seekBack => some (.seekRelative (-5))
  | .seekForward => some (.seekRelative 5)
  | .nextTrack => some .nextTrack
  | .previousTrack => some .previousTrack
  | .volumeDown => some (.adjustVolume (-volumeStep))
  | .volumeUp => some (.adjustVolume volumeStep)
  | .toggleMute => some .toggleMute
  | .cycleAudio => some .cycleAudio
  | .cycleSubtitle => some .cycleOrToggleSubtitle
  | .openIdleFeedLink => some .openIdleFeedLink
  | _ => none

def commandForPolicy (binding : KeyPolicyBinding) (key : KeyChord) : Option Command :=
  (commandForSimpleBinding binding).or
    ((commandForNavigationBinding binding key).or (commandForTransportBinding binding))

/-! ### Armed dispatch -/

inductive RouterOutcome where
  | command (command : Command)
  | swallow
  | fallThrough
  | deferred (command : Command)
  | prefixArm
  | prefixDispatch (command : Command)
  | prefixSwallow
deriving DecidableEq

namespace Keybinds

variable (keybinds : Keybinds) (snapshot : RouterSnapshot)

def armedCommand (action : KeybindAction) : Option Command :=
  match keyPolicy.find? fun entry => entry.name = action.id with
  | none => none
  | some entry =>
    let routers := (keybinds.routerChords action).map KeyChord.fromKeybindsChord
    match routers.find? fun router => entry.gate.allows router snapshot with
    | none => none
    | some firing => commandForPolicy entry.binding firing

def resolveArmedOutcome (chord : KeyChord) : RouterOutcome :=
  if keybinds.prefixChord.map KeyChord.fromKeybindsChord = some chord then .prefixArm
  else
    let mapped := keybinds.prefixAssignments.find? fun assignment =>
      KeyChord.fromKeybindsChord assignment.2 = chord
    match mapped.bind fun assignment => keybinds.armedCommand snapshot assignment.1 with
    | some command => .prefixDispatch command
    | none => .prefixSwallow

/-! ### What an armed chord is to do -/

def GateOpen (action : KeybindAction) : Prop :=
  ∃ entry ∈ keyPolicy, entry.name = action.id ∧
    ∃ router ∈ keybinds.routerChords action,
      entry.gate.allows (KeyChord.fromKeybindsChord router) snapshot = true

def Commands (action : KeybindAction) (command : Command) : Prop :=
  ∃ entry ∈ keyPolicy, entry.name = action.id ∧
    ∃ router ∈ keybinds.routerChords action,
      entry.gate.allows (KeyChord.fromKeybindsChord router) snapshot = true ∧
        commandForPolicy entry.binding (KeyChord.fromKeybindsChord router) = some command

/-- Armed prefix mode captures every chord and dispatches what is mapped, and only that. -/
structure Armed : Prop where
  captured : ∀ snapshot chord,
    keybinds.resolveArmedOutcome snapshot chord = .prefixArm ∨
      (∃ command, keybinds.resolveArmedOutcome snapshot chord = .prefixDispatch command) ∨
        keybinds.resolveArmedOutcome snapshot chord = .prefixSwallow
  arms : ∀ snapshot chord, keybinds.resolveArmedOutcome snapshot chord = .prefixArm ↔
    keybinds.prefixChord.map KeyChord.fromKeybindsChord = some chord
  escape : ∀ snapshot command,
    keybinds.resolveArmedOutcome snapshot ⟨.esc, {}⟩ ≠ .prefixDispatch command
  mapped : ∀ snapshot chord command,
    keybinds.resolveArmedOutcome snapshot chord = .prefixDispatch command →
      ∃ assignment ∈ keybinds.prefixAssignments, KeyChord.fromKeybindsChord assignment.2 = chord ∧
        keybinds.Commands snapshot assignment.1 command
  fires : ∀ snapshot, ∀ assignment ∈ keybinds.prefixAssignments,
    keybinds.GateOpen snapshot assignment.1 →
      ∃ command, keybinds.Commands snapshot assignment.1 command ∧
        keybinds.resolveArmedOutcome snapshot (KeyChord.fromKeybindsChord assignment.2) =
          .prefixDispatch command

/-- No assignment whose gate can open stands on Escape, on the press that arms the prefix, or on
    that of an assignment before it whose action has another gate or command. -/
structure Reachable : Prop where
  awake : ∀ snapshot, ∀ assignment ∈ keybinds.prefixAssignments,
    keybinds.GateOpen snapshot assignment.1 →
      KeyChord.fromKeybindsChord assignment.2 ≠ ⟨.esc, {}⟩ ∧
        keybinds.prefixChord.map KeyChord.fromKeybindsChord ≠
          some (KeyChord.fromKeybindsChord assignment.2)
  first : ∀ assignment ∈ keybinds.prefixAssignments, ∀ earlier,
    (keybinds.prefixAssignments.find? fun other =>
      KeyChord.fromKeybindsChord other.2 = KeyChord.fromKeybindsChord assignment.2) =
        some earlier →
      ∀ snapshot command, keybinds.Commands snapshot assignment.1 command →
        keybinds.Commands snapshot earlier.1 command

variable {keybinds snapshot} {action : KeybindAction} {command : Command}

theorem names_nodup : (keyPolicy.map (·.name)).Nodup := by decide +kernel

theorem find_entry {entry : KeyPolicyEntry} (member : entry ∈ keyPolicy) (name : entry.name = action.id) :
    (keyPolicy.find? fun entry => entry.name = action.id) = some entry := by
  cases found : keyPolicy.find? fun entry => entry.name = action.id with
  | none =>
    have absent := List.find?_eq_none.mp found entry member
    simp [name] at absent
  | some other =>
    have same : other.name = action.id := by simpa using List.find?_some found
    rw [inj_on_of_nodup_map names_nodup (mem_of_find?_eq_some found) member (same.trans name.symm)]

theorem armedCommand_commands (fired : keybinds.armedCommand snapshot action = some command) :
    keybinds.Commands snapshot action command := by
  unfold armedCommand at fired
  split at fired
  · cases fired
  · rename_i entry found
    dsimp only at fired
    split at fired
    · cases fired
    · rename_i firing allowed
      have opens : entry.gate.allows firing snapshot = true := by
        simpa using List.find?_some allowed
      obtain ⟨router, declared, rfl⟩ := mem_map.mp (mem_of_find?_eq_some allowed)
      exact ⟨entry, mem_of_find?_eq_some found, by simpa using List.find?_some found, router, declared, opens, fired⟩

/-- An action that may stand in the prefix namespace has one command, whatever fires it. -/
theorem addressable_command (declared : action ∈ keybindActions)
    (addressable : action.prefixAddressable = true) {entry : KeyPolicyEntry}
    (member : entry ∈ keyPolicy) (name : entry.name = action.id) :
    ∃ command, ∀ key, commandForPolicy entry.binding key = some command := by
  have known : ∀ action ∈ keybindActions, action.prefixAddressable = true →
      ∀ entry ∈ keyPolicy, entry.name = action.id → entry.binding ≠ .libraryTabJump ∧
          (commandForPolicy entry.binding ⟨.esc, {}⟩).isSome = true := by decide +kernel
  obtain ⟨plain, some_⟩ := known action declared addressable entry member name
  obtain ⟨command, answer⟩ := Option.isSome_iff_exists.mp some_
  refine ⟨command, fun key => ?_⟩
  rw [← answer]
  cases binding : entry.binding <;> first
    | rfl
    | exact absurd binding plain

theorem gateOpen_commands (declared : action ∈ keybindActions) (addressable : action.prefixAddressable = true)
    (open_ : keybinds.GateOpen snapshot action) :
    ∃ command, keybinds.Commands snapshot action command := by
  obtain ⟨entry, member, name, router, bound, allowed⟩ := open_
  obtain ⟨command, answers⟩ := addressable_command declared addressable member name
  exact ⟨command, entry, member, name, router, bound, allowed, answers _⟩

theorem commands_armedCommand (declared : action ∈ keybindActions) (addressable : action.prefixAddressable = true)
    (commands : keybinds.Commands snapshot action command) :
    keybinds.armedCommand snapshot action = some command := by
  obtain ⟨entry, member, name, router, bound, allowed, answer⟩ := commands
  obtain ⟨fixed, answers⟩ := addressable_command declared addressable member name
  have same : fixed = command := Option.some.inj ((answers _).symm.trans answer)
  unfold armedCommand
  rw [find_entry member name]
  dsimp only
  cases found : ((keybinds.routerChords action).map KeyChord.fromKeybindsChord).find? fun router =>
      entry.gate.allows router snapshot with
  | none =>
    have absent := List.find?_eq_none.mp found _ (mem_map_of_mem bound)
    exact absurd allowed absent
  | some firing => exact same ▸ answers firing

end Keybinds

/-! ### Accepted assignments -/

variable {raw : RawKeybinds} {keybinds : Keybinds}

theorem loadPrefixNamespace_addressable {sectionName : String} {entries : List (String × String)}
    {bindings : List (KeybindAction × Chord)}
    (loaded : loadPrefixNamespace sectionName entries = .ok bindings) :
    ∀ binding ∈ bindings, binding.1.prefixAddressable = true := by
  induction entries generalizing bindings with
  | nil =>
    cases loaded
    exact fun _ member => absurd member not_mem_nil
  | cons entry entries ih =>
    obtain ⟨id, text⟩ := entry
    unfold loadPrefixNamespace at loaded
    split at loaded
    · exact ih loaded
    · obtain ⟨action, -, loaded⟩ := bind_ok loaded
      obtain ⟨⟨⟩, allowed, loaded⟩ := bind_ok loaded
      obtain ⟨chord, -, loaded⟩ := bind_ok loaded
      obtain ⟨rest, compiled, loaded⟩ := bind_ok loaded
      cases loaded
      rw [forall_mem_cons]
      refine ⟨?_, ih compiled⟩
      unfold addressable at allowed
      split at allowed
      · assumption
      · cases allowed

theorem loadSections_addressable {seen : List String} {sections : List (String × RawSection)}
    {loaded : LoadedSections} (ok : loadSections seen sections = .ok loaded) :
    ∀ binding ∈ loaded.prefixNamespace, binding.1.prefixAddressable = true := by
  induction sections generalizing seen loaded with
  | nil =>
    cases ok
    exact fun _ member => absurd member not_mem_nil
  | cons raw sections ih =>
    unfold loadSections at ok
    obtain ⟨keySection, -, ok⟩ := bind_ok ok
    obtain ⟨router, -, ok⟩ := bind_ok ok
    obtain ⟨assigned, first, ok⟩ := bind_ok ok
    obtain ⟨rest, compiled, ok⟩ := bind_ok ok
    cases ok
    intro binding member
    rcases mem_append.mp member with here | later
    · exact loadPrefixNamespace_addressable first binding here
    · exact ih compiled binding later

theorem load_addressable (loaded : load raw = .ok keybinds) : ∀ assignment ∈ keybinds.prefixAssignments,
      assignment.1 ∈ keybindActions ∧ assignment.1.prefixAddressable = true := by
  have accepts := load_accepts loaded
  obtain ⟨prefixChord, -, loaded⟩ := bind_ok loaded
  obtain ⟨configured, compiled, loaded⟩ := bind_ok loaded
  intro assignment member
  have declared : assignment.1 ∈ keybindActions := by
    obtain ⟨entry, -, found⟩ := mem_filterMap.mp member
    obtain ⟨action, known, rfl⟩ := Option.map_eq_some_iff.mp found
    exact (actionById_mem known).1
  have compiles := loadSections_ok compiled
  have listed : (assignment.1.id, assignment.2) ∈ named configured.prefixNamespace := by
    have assignments : raw.assignments = named configured.prefixNamespace := compiles.prefixNamespace.symm
    rw [← assignments, ← accepts.assignments]
    exact mem_map_of_mem member
  obtain ⟨binding, there, same⟩ := mem_map.mp listed
  have known := compiles.declared binding (mem_append_right _ there)
  rw [← action_ext known declared (Prod.mk.inj same).1]
  exact ⟨known, loadSections_addressable compiled binding there⟩

/-! ### Armed dispatch of an accepted configuration -/

namespace Keybinds

variable {snapshot : RouterSnapshot} {chord : KeyChord} {command : Command}

theorem resolveArmedOutcome_dispatch : keybinds.resolveArmedOutcome snapshot chord = .prefixDispatch command ↔
      keybinds.prefixChord.map KeyChord.fromKeybindsChord ≠ some chord ∧
        ∃ assignment, (keybinds.prefixAssignments.find? fun assignment =>
            KeyChord.fromKeybindsChord assignment.2 = chord) = some assignment ∧
          keybinds.armedCommand snapshot assignment.1 = some command := by
  unfold resolveArmedOutcome
  by_cases armed : keybinds.prefixChord.map KeyChord.fromKeybindsChord = some chord
  · simp [armed]
  · rw [if_neg armed]
    dsimp only
    rw [← Option.bind_eq_some_iff]
    split <;> rename_i result <;> rw [result] <;> simp [armed]

theorem Armed.reachable (armed : keybinds.Armed) (addressed : ∀ assignment ∈ keybinds.prefixAssignments,
      assignment.1 ∈ keybindActions ∧ assignment.1.prefixAddressable = true) :
    keybinds.Reachable := by
  refine ⟨fun snapshot assignment member open_ => ?_, fun assignment member earlier found snapshot command commands => ?_⟩
  · obtain ⟨command, -, fired⟩ := armed.fires snapshot assignment member open_
    refine ⟨fun escape => ?_, (resolveArmedOutcome_dispatch.mp fired).1⟩
    rw [escape] at fired
    exact armed.escape snapshot command fired
  · obtain ⟨entry, there, name, router, bound, allowed, answer⟩ := commands
    obtain ⟨fixed, commands, fired⟩ := armed.fires snapshot assignment member ⟨entry, there, name, router, bound, allowed⟩
    obtain ⟨-, first, found', answers⟩ := resolveArmedOutcome_dispatch.mp fired
    cases found.symm.trans found'
    obtain ⟨declared, addressable⟩ := addressed assignment member
    have own := commands_armedCommand declared addressable commands
    have same := commands_armedCommand declared addressable ⟨entry, there, name, router, bound, allowed, answer⟩
    cases own.symm.trans same
    exact armedCommand_commands answers

theorem Reachable.armed (reachable : keybinds.Reachable) (addressed : ∀ assignment ∈ keybinds.prefixAssignments,
      assignment.1 ∈ keybindActions ∧ assignment.1.prefixAddressable = true) :
    keybinds.Armed := by
  have mapped : ∀ snapshot chord command, keybinds.resolveArmedOutcome snapshot chord = .prefixDispatch command →
        ∃ assignment ∈ keybinds.prefixAssignments, KeyChord.fromKeybindsChord assignment.2 = chord ∧
            keybinds.Commands snapshot assignment.1 command := by
    intro snapshot chord command fired
    obtain ⟨-, assignment, found, answers⟩ := resolveArmedOutcome_dispatch.mp fired
    exact ⟨assignment, mem_of_find?_eq_some found, by simpa using List.find?_some found, armedCommand_commands answers⟩
  refine ⟨fun snapshot chord => ?_, fun snapshot chord => ?_, fun snapshot command fired => ?_,
    mapped, fun snapshot assignment member open_ => ?_⟩
  · unfold resolveArmedOutcome
    split
    · exact .inl rfl
    · dsimp only
      split
      · exact .inr (.inl ⟨_, rfl⟩)
      · exact .inr (.inr rfl)
  · unfold resolveArmedOutcome
    split
    · rename_i same
      exact ⟨fun _ => same, fun _ => rfl⟩
    · rename_i other
      dsimp only
      split <;> exact ⟨fun wrong => (by cases wrong), fun same => absurd same other⟩
  · obtain ⟨assignment, member, escape, entry, there, name, router, bound, allowed, -⟩ := mapped snapshot _ command fired
    exact (reachable.awake snapshot assignment member ⟨entry, there, name, router, bound, allowed⟩).1 escape
  · obtain ⟨declared, addressable⟩ := addressed assignment member
    obtain ⟨command, commands⟩ := gateOpen_commands declared addressable open_
    refine ⟨command, commands, resolveArmedOutcome_dispatch.mpr ⟨(reachable.awake snapshot assignment member open_).2, ?_⟩⟩
    cases found : keybinds.prefixAssignments.find? fun other =>
        KeyChord.fromKeybindsChord other.2 = KeyChord.fromKeybindsChord assignment.2 with
    | none =>
      have absent := List.find?_eq_none.mp found assignment member
      simp at absent
    | some earlier =>
      have taken := reachable.first assignment member earlier found snapshot command commands
      obtain ⟨known, allowed⟩ := addressed earlier (mem_of_find?_eq_some found)
      exact ⟨earlier, rfl, commands_armedCommand known allowed taken⟩

end Keybinds

def escapedHelp : RawKeybinds :=
  { prefixChord := some "Ctrl+b"
    sections := [("global", { prefixNamespace := [("help_open", "Esc")] })] }

end Mbv.Input
