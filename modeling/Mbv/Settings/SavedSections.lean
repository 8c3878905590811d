import Mbv.Settings.SectionReads

namespace Mbv.Settings

open Text Input Queue

variable {platform : Platform} {c : Config}

/-! ### mbvd -/

structure ListenRead (platform : Platform) (listen : String) : Prop where
  trimmed : trim listen = listen
  absent : listen = "" → defaultDaemonServerTcpListen platform = ""

theorem broadcast_read {value : Int} : let secs := (tryUnsigned 64 (min (max value 100) 60000)).getD (BitVec.allOnes 64)
    100 ≤ secs.toNat ∧ secs.toNat ≤ 60000 := by
  have inside : 0 ≤ min (max value 100) 60000 ∧ min (max value 100) 60000 < 2 ^ 64 := by omega
  intro secs
  have read : tryUnsigned 64 (min (max value 100) 60000) = some secs := by
    unfold secs tryUnsigned
    rw [if_pos inside]
    rfl
  have same := tryUnsigned_some read
  omega

theorem mbvd_listen_read {server : Table} (listen : ListenRead platform c.daemonServerTcpListen) :
    (((Ordered.get "tcp_listen" (mbvdServerKeys c server)).bind Value.asStr).map trim |>.filter
      (· ≠ "")).getD (defaultDaemonServerTcpListen platform) = c.daemonServerTcpListen := by
  unfold mbvdServerKeys
  rw [listen.trimmed]
  by_cases empty : c.daemonServerTcpListen = ""
  · rw [if_pos empty, empty]
    simp [Table.drop, listen.absent empty]
  · rw [if_neg empty]
    simp [Table.put, Value.asStr, listen.trimmed, Option.filter, empty]

theorem mbvd_read {inner server : Table} (low : 100 ≤ c.daemonBroadcastMs.toNat)
    (high : c.daemonBroadcastMs.toNat ≤ 60000) (listen : ListenRead platform c.daemonServerTcpListen)
    (broadcast : Ordered.get "broadcast_ms" inner = some (number c.daemonBroadcastMs))
    (nested : Ordered.get "server" inner = some (.table (mbvdServerKeys c server))) :
    parseMbvdSection platform (some (.table inner)) = c.mbvdSettings := by
  have clamped : min (max (c.daemonBroadcastMs.toNat : Int) 100) 60000 = c.daemonBroadcastMs.toNat := by
    omega
  have stored := @asInteger_number 64 c.daemonBroadcastMs (by omega)
  have heard := @mbvd_listen_read platform c server listen
  unfold parseMbvdSection Config.mbvdSettings
  rw [keyOf_table, keyOf_table, broadcast, nested, keyOf_table, heard]
  simp [stored, clamped, tryUnsigned_toNat]

/-! ### library -/

theorem library_read {inner : Table} {levels : List String}
    (hidden : c.hiddenLibraries.map platform.toLowercase = c.hiddenLibraries)
    (feedView : c.feedViewLibraries.map platform.toLowercase = c.feedViewLibraries)
    (listed : Ordered.get "hidden_libraries" inner = some (strings c.hiddenLibraries))
    (viewed : Ordered.get "feed_view_libraries" inner = some (strings c.feedViewLibraries))
    (music : (getStrings (Ordered.get "music" inner) "levels").getD [] = levels) :
    parseLibrarySection platform (some (.table inner)) = ⟨c.hiddenLibraries, levels, c.feedViewLibraries⟩ := by
  unfold parseLibrarySection
  rw [getStrings_stored listed, getStrings_stored viewed, keyOf_table, music]
  simp [hidden, feedView]

/-! ### panel -/

structure PanelRead (panel : PanelConfig) : Prop where
  width : 1 ≤ panel.width
  widthExpanded : 1 ≤ panel.widthExpanded
  terminal : panel.terminal ≠ some []
  pinTerminal : panel.pinTerminal ≠ some []

theorem panelWidth_stored {table : Table} {key : String} {width absent : BitVec 16} (least : 1 ≤ width)
    (stored : Ordered.get key table = some (number width)) :
    panelWidth (.table table) key absent = width := by
  have small := width.isLt
  have read := @asInteger_number 16 width (by omega)
  have shown : decide (1 ≤ width) = true := decide_eq_true least
  unfold panelWidth panelKey
  rw [Value.get_table, stored, Option.bind_some, read, Option.bind_some, tryUnsigned_toNat, Option.filter_some,
    if_pos shown, Option.getD_some]

theorem panelAccentWidth_stored {table : Table} {key : String} {width absent : { width : BitVec 16 // width ≠ 0 }}
    (stored : Ordered.get key table = some (number width.val)) :
    panelAccentWidth (.table table) key absent = width := by
  have small := width.val.isLt
  have read := @asInteger_number 16 width.val (by omega)
  unfold panelAccentWidth panelKey
  rw [Value.get_table, stored, Option.bind_some, read, Option.bind_some, tryUnsigned_toNat, Option.bind_some, nonZero,
    dif_pos width.property, Option.getD_some]

theorem panelGutter_stored {table : Table} {key : String} {gutter absent : Int32}
    (stored : Ordered.get key table = some (integer32 gutter)) :
    panelGutter (.table table) key absent = gutter := by
  unfold panelGutter panelKey
  rw [Value.get_table, stored, Option.bind_some, asInteger_integer32, Option.getD_some]

theorem panelBool_stored {table : Table} {key : String} {flag absent : Bool}
    (stored : Ordered.get key table = some (.boolean flag)) :
    panelBool (.table table) key absent = flag := by
  unfold panelBool panelKey
  rw [Value.get_table, stored]
  rfl

theorem panelArgvPrefix_stored {table : Table} {key : String} {argv : List String} (some' : argv ≠ [])
    (stored : Ordered.get key table = some (strings argv)) :
    panelArgvPrefix (.table table) key = some argv := by
  unfold panelArgvPrefix
  rw [Value.get_table, stored, Option.bind_some, strings, Value.asArray, Option.bind_some, mapM_strings]
  simp [Option.filter, some']

def TerminalKept (argv : Option (List String)) (found : Table) (key : String) : Prop :=
  argv = none → panelArgvPrefix (.table found) key = none

theorem terminal_read_iff {argv : Option (List String)} {inner found : Table} {key : String} (read : argv ≠ some [])
    (stored : Ordered.get key inner = (argv.map strings).or (Ordered.get key found)) :
    panelArgvPrefix (.table inner) key = argv ↔ TerminalKept argv found key := by
  unfold TerminalKept
  cases argv with
  | none =>
    have same : panelArgvPrefix (.table inner) key = panelArgvPrefix (.table found) key := by
      unfold panelArgvPrefix
      rw [Value.get_table, Value.get_table, stored]
      rfl
    simp [same]
  | some argv =>
    have kept := @panelArgvPrefix_stored inner key argv (fun none => read (congrArg some none)) stored
    simp [kept]

theorem panel_read_iff (read : PanelRead c.panel) (found : Table) :
    parsePanelSection (some (.table (panelKeys c found))) = c.panel ↔ TerminalKept c.panel.terminal found "terminal" ∧
        TerminalKept c.panel.pinTerminal found "pin_terminal" := by
  have get_putArgv (table : Table) (key other : String) (argv : Option (List String)) :
      Ordered.get other (putArgv table key argv) =
        if other = key then (argv.map strings).or (Ordered.get key table) else Ordered.get other table := by
    unfold putArgv
    cases argv with
    | none =>
      by_cases same : other = key
      · simp [same]
      · simp [same]
    | some argv =>
      by_cases same : other = key
      · simp [Table.put, same]
      · simp [Table.put, same]
  have terminal := @terminal_read_iff c.panel.terminal (panelKeys c found) found "terminal" read.terminal
    (by simp [panelKeys, get_putArgv, Table.put, Table.drop])
  have pinTerminal := @terminal_read_iff c.panel.pinTerminal (panelKeys c found) found "pin_terminal"
    read.pinTerminal (by simp [panelKeys, get_putArgv, Table.put, Table.drop])
  have side : panelSide (.table (panelKeys c found)) .left = c.panel.side := by
    unfold panelSide panelKey
    simp [panelKeys, get_putArgv, Table.put, Value.asStr, panelSide_asStr]
  have accentColor (absent : PanelAccentColor) :
      panelAccentColor (.table (panelKeys c found)) "accent_color" absent = c.panel.accentColor := by
    unfold panelAccentColor panelKey
    simp [panelKeys, get_putArgv, Table.put, Value.asStr, panelAccentColor_display]
  rw [← terminal, ← pinTerminal]
  unfold parsePanelSection
  dsimp only
  rw [side, accentColor, @panelWidth_stored _ "width" _ _ read.width, @panelWidth_stored _ "width_expanded" _ _ read.widthExpanded,
    @panelBool_stored _ "reserve" c.panel.reserve, @panelGutter_stored _ "gutter_top" c.panel.gutterTop,
    @panelGutter_stored _ "gutter_bottom" c.panel.gutterBottom, @panelGutter_stored _ "gutter_left" c.panel.gutterLeft,
    @panelGutter_stored _ "gutter_right" c.panel.gutterRight, @panelBool_stored _ "accent" c.panel.accent,
    @panelAccentWidth_stored _ "accent_width" c.panel.accentWidth]
  · constructor
    · intro same
      constructor
      · exact congrArg PanelConfig.terminal same
      · exact congrArg PanelConfig.pinTerminal same
    · rintro ⟨first, second⟩
      rw [first, second]
  all_goals simp [panelKeys, get_putArgv, Table.put]

end Mbv.Settings
