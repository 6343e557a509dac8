import CommandShell.Builtin.FileCommands
import CommandShell.Builtin.InformationCommands
import CommandShell.Proofs.Markup.Shown
import CommandShell.Proofs.Text.Parts
import Mathlib.Data.List.Forall2

/-!
# Escaped texts on a console

A console that is no terminal prints what a message is shown as, unless there are characters in it that it drops or
moves (`Console.message_of_steady`). Between the tags of a colour an escaped text comes out as it is exactly if each
bracket behind a backslash begins a tag and there is one backslash at the end at most (`Markup.KeptBeforeTag`); where no
tag follows it directly, exactly if there is not one backslash at the end (`Markup.KeptElsewhere`). These two tell what a
warning, a listing, the help and the address of a QR code print (`Event.escaped_texts`).
-/

namespace CommandShell

namespace Console

/-- No character that a console drops, no tab and no line feed. -/
def Steady (cs : List Char) : Prop := ∀ c ∈ cs, isDropped c = false ∧ c ≠ '\t' ∧ c ≠ '\n'

instance (cs : List Char) : Decidable (Steady cs) := List.decidableBAll _ cs

theorem steady_append {cs more : List Char} : Steady (cs ++ more) ↔ Steady cs ∧ Steady more := List.forall_mem_append

theorem expandTabs_of_steady {cs : List Char} (h : Steady cs) (column : Nat) : expandTabs column cs = cs := by
  induction cs generalizing column with
  | nil => rfl
  | cons c cs ih =>
    obtain ⟨⟨-, htab, hline⟩, hrest⟩ := List.forall_mem_cons.1 h
    rw [expandTabs, ih hrest]
    · exact hline
    · exact htab

/-- What is no terminal prints the characters alone. -/
theorem stretch_of_not_terminal {console : Console} (h : console.terminal = false) (colour : Option Colour)
    (cs : List Char) : console.stretch colour cs = cs := by
  unfold stretch
  split
  · rw [h]
    rfl
  · rfl

/-- A run in which nothing is dropped or moved is one stretch. -/
theorem runs_cons_of_steady (console : Console) {r : Markup.Run} (hr : Steady r.text) (rs : List Markup.Run)
    (column : Nat) :
    console.runs column (r :: rs) = console.stretch r.colour r.text ++ console.runs (columnAfter column r.text) rs := by
  have hkept : r.text.filter (!isDropped ·) = r.text := by
    rw [List.filter_eq_self]
    exact fun c hc => by simp [(hr c hc).1]
  have hline : '\n' ∉ r.text := fun hin => (hr _ hin).2.2 rfl
  rw [runs, hkept, expandTabs_of_steady hr, run, Text.splitAtChar_of_notMem hline, List.map_singleton,
    List.intercalate_singleton]

theorem runs_of_steady {console : Console} (h : console.terminal = false) {rs : List Markup.Run}
    (hrs : Steady (rs.flatMap Markup.Run.text)) (column : Nat) :
    console.runs column rs = rs.flatMap Markup.Run.text := by
  induction rs generalizing column with
  | nil => rfl
  | cons r rs ih =>
    rw [List.flatMap_cons, steady_append] at hrs
    rw [console.runs_cons_of_steady hrs.1, stretch_of_not_terminal h, ih hrs.2]
    rfl

/-- What is not a terminal prints what a message is shown as. -/
theorem message_of_steady {console : Console} (h : console.terminal = false) {message : String}
    (hm : Steady message.toList) :
    console.message message = String.ofList (Markup.shown message.toList) ++ "\n" := by
  have hshown : Steady (Markup.shown message.toList) :=
    fun c hc => hm c ((Markup.shown_sublist message.toList).subset hc)
  rw [Markup.shown, String.ofList_toList] at *
  rw [Console.message, runs_of_steady h hshown]

theorem message_eq_iff {console : Console} (h : console.terminal = false) {message text : String}
    (hm : Steady message.toList) :
    console.message message = text ++ "\n" ↔ Markup.shown message.toList = text.toList := by
  rw [message_of_steady h hm, ← String.toList_inj, String.toList_append, String.toList_append,
    List.append_cancel_right_eq, String.toList_ofList]

end Console

namespace Markup

open Console (Steady)

/-- What comes out as it is between the tags of a colour. -/
def KeptBeforeTag (s : String) : Prop := Guarded s.toList ∧ endSlashes s.toList ≤ 1

/-- What comes out as it is where no tag follows it directly. -/
def KeptElsewhere (s : String) : Prop := Guarded s.toList ∧ endSlashes s.toList ≠ 1

/-- The name of a colour: between brackets it is a tag that opens a colour, and that can be printed. -/
structure IsColourName (colour : String) : Prop where
  body : IsBody colour.toList
  opens : colour.toList.head? ≠ some '/' ∧ colour.toList.head? ≠ some '@'
  steady : Steady colour.toList

theorem isColourName_of_ofName? {colour : String} (h : (Colour.ofName? colour).isSome) : IsColourName colour := by
  unfold Colour.ofName? at h
  split at h
  case h_10 => cases h
  all_goals exact ⟨⟨⟨_, rfl, by decide⟩, by decide, by decide⟩, by decide, by decide⟩

theorem IsColourName.closes {colour : String} (h : IsColourName colour) : IsBody ('/' :: colour.toList) :=
  ⟨⟨'/', rfl, by decide⟩, by simp [h.body.notOpen], by simp [h.body.notClose]⟩

theorem steady_escapeChars {cs : List Char} (h : Steady cs) : Steady (escapeChars cs) := by
  have hslash : ∀ n, Steady (backslashes n) := fun n c hc => by
    rw [List.eq_of_mem_replicate hc]
    decide
  obtain ⟨spans, plain, slashes, hspans, hplain, rfl⟩ := exists_spanned cs
  rw [escapeChars_spanned hspans hplain]
  clear hspans
  induction spans with
  | nil =>
    obtain ⟨hplain, -⟩ := Console.steady_append.1 (show Steady (plain ++ _) from h)
    exact Console.steady_append.2 ⟨nofun, Console.steady_append.2 ⟨hplain, hslash _⟩⟩
  | cons s spans ih =>
    rw [spanned, List.flatMap_cons, List.append_assoc, Console.steady_append, Span.chars, Console.steady_append,
      Console.steady_append] at h
    obtain ⟨⟨hp, -, hbody⟩, hrest⟩ := h
    rw [spanned, List.map_cons, List.flatMap_cons, List.append_assoc, Console.steady_append, Span.chars,
      Console.steady_append, Console.steady_append]
    exact ⟨⟨hp, hslash _, hbody⟩, ih hrest⟩

/-- The parts of a coloured message around an escaped text. -/
theorem toList_within (lead colour before s after : String) :
    (lead ++ within colour (before ++ escape s ++ after)).toList =
      lead.toList ++ (bracketed colour.toList ++ (before.toList ++ (escapeChars s.toList ++
        (after.toList ++ bracketed ('/' :: colour.toList))))) := by
  simp [within, escape, bracketed]

theorem steady_within {lead colour before s after : String} (hlead : Steady lead.toList) (hcolour : IsColourName colour)
    (hbefore : Steady before.toList) (hs : Steady s.toList) (hafter : Steady after.toList) :
    Steady (lead ++ within colour (before ++ escape s ++ after)).toList := by
  have htag : ∀ {body}, Steady body → Steady (bracketed body) := fun hbody c hc => by
    rcases List.mem_append.1 hc with hc | hc
    · rcases List.mem_cons.1 hc with rfl | hc
      · decide
      · exact hbody c hc
    · rw [List.mem_singleton.1 hc]
      decide
  have hclose : Steady ('/' :: colour.toList) := List.forall_mem_cons.2 ⟨by decide, hcolour.steady⟩
  rw [toList_within]
  simp only [Console.steady_append]
  exact ⟨hlead, htag hcolour.steady, hbefore, steady_escapeChars hs, hafter, htag hclose⟩

/-- A text between the tags of a colour, with something before it. -/
theorem shown_within_iff {lead colour before : String} (hlead : Bland lead.toList) (hcolour : IsColourName colour)
    (hbefore : Bland before.toList) (s : String) :
    shown (lead ++ within colour (before ++ escape s)).toList = (lead ++ before ++ s).toList ↔ KeptBeforeTag s := by
  have hmessage := toList_within lead colour before s ""
  rw [String.append_empty] at hmessage
  rw [hmessage, shown_bland_append hlead, shown_tag_append hcolour.body, shown_bland_append hbefore,
    String.toList_append, String.toList_append, List.append_assoc, List.append_cancel_left_eq,
    List.append_cancel_left_eq]
  exact shown_escapeChars_closed_iff hcolour.closes s.toList

/-- A text between the tags of a colour, with a mark behind it. -/
theorem shown_within_mark_iff {colour mark : String} (hcolour : IsColourName colour) (hmark : Bland mark.toList)
    (hne : mark.toList ≠ []) (s : String) :
    shown (within colour (escape s ++ mark)).toList = (s ++ mark).toList ↔ KeptElsewhere s := by
  have hmessage := toList_within "" colour "" s mark
  rw [String.empty_append, String.empty_append, String.toList_empty, List.nil_append, List.nil_append] at hmessage
  rw [hmessage, shown_tag_append hcolour.body, shown_escapeChars_marked hmark hne hcolour.closes,
    String.toList_append, List.append_cancel_right_eq]
  exact closeBackslash_unstray_eq_iff s.toList

theorem shown_escape_iff (s : String) : shown (escape s).toList = s.toList ↔ KeptElsewhere s := by
  rw [escape, String.toList_ofList, shown_escapeChars]
  exact closeBackslash_unstray_eq_iff s.toList

end Markup

namespace Event

open Console (Steady)
open Markup (KeptBeforeTag KeptElsewhere IsColourName within escape)

variable {output errors : Console}

theorem shown_info_eq_iff (h : output.terminal = false) (errors : Console) {message text : String}
    (hm : Steady message.toList) :
    (info message).shown output errors = (text ++ "\n", "") ↔ Markup.shown message.toList = text.toList := by
  rw [Event.shown, Prod.mk.injEq, Console.message_eq_iff h hm]
  exact and_iff_left rfl

/-- An escaped text between the tags of a colour, with something before it. -/
theorem shown_coloured_iff (h : output.terminal = false) (errors : Console) {lead colour before s : String}
    (hlead : Markup.Bland lead.toList ∧ Steady lead.toList) (hcolour : IsColourName colour)
    (hbefore : Markup.Bland before.toList ∧ Steady before.toList) (hs : Steady s.toList) :
    (info (lead ++ Builtin.coloured colour before s "")).shown output errors = (lead ++ before ++ s ++ "\n", "") ↔
      KeptBeforeTag s := by
  have hsteady := Markup.steady_within hlead.2 hcolour hbefore.2 hs (show Steady "".toList by decide)
  rw [Builtin.coloured, shown_info_eq_iff h errors hsteady, String.append_empty,
    Markup.shown_within_iff hlead.1 hcolour hbefore.1]

theorem shown_warning_iff (output : Console) (h : errors.terminal = false) {s : String} (hs : Steady s.toList) :
    (warning s).shown output errors = ("", s ++ "\n") ↔ KeptBeforeTag s := by
  have hyellow : IsColourName "yellow" := Markup.isColourName_of_ofName? rfl
  have hsteady := @Markup.steady_within "" "yellow" "" s "" (by decide) hyellow (by decide) hs (by decide)
  have hshown := @Markup.shown_within_iff "" "yellow" "" (by decide) hyellow (by decide) s
  rw [String.empty_append, String.empty_append, String.append_empty] at hsteady
  rw [String.empty_append, String.empty_append, String.empty_append, String.empty_append] at hshown
  rw [Event.shown, Prod.mk.injEq, Console.message_eq_iff h hsteady, hshown]
  exact and_iff_right rfl

theorem shown_escape_iff (h : output.terminal = false) (errors : Console) {s : String} (hs : Steady s.toList) :
    (info (escape s)).shown output errors = (s ++ "\n", "") ↔ KeptElsewhere s := by
  have hsteady : Steady (escape s).toList := by
    rw [escape, String.toList_ofList]
    exact Markup.steady_escapeChars hs
  rw [shown_info_eq_iff h errors hsteady, Markup.shown_escape_iff]

/-- An escaped text between the tags of a colour, with a mark behind it. -/
theorem shown_marked_iff (h : output.terminal = false) (errors : Console) {colour mark s : String}
    (hcolour : IsColourName colour) (hmark : Markup.Bland mark.toList ∧ Steady mark.toList) (hne : mark.toList ≠ [])
    (hs : Steady s.toList) :
    (info (within colour (escape s ++ mark))).shown output errors = (s ++ mark ++ "\n", "") ↔ KeptElsewhere s := by
  have hsteady := @Markup.steady_within "" colour "" s mark (by decide) hcolour (by decide) hs hmark.2
  rw [String.empty_append, String.empty_append] at hsteady
  rw [shown_info_eq_iff h errors hsteady, Markup.shown_within_mark_iff hcolour hmark.1 hne]

end Event

/-! ### Listings, the help and addresses -/

namespace Builtin

open Console (Steady)
open Markup (KeptBeforeTag KeptElsewhere IsColourName within escape)

variable {output errors : Console}

/-- What stands behind a name in a listing. -/
def mark (files : Files) (path : String) : String :=
  match files.isDirectory path, files.isFile path with
  | .ok true, _ => "/"
  | _, .ok true => if files.isExecutable path then "*" else ""
  | _, _ => ""

/-- What is told of a listed entry: its name, with its mark in a colour if it has one. -/
theorem listed_eq_ok {files : Files} {path name message : String} (h : listed files path name = .ok message) :
    (mark files path = "" ∧ message = escape name) ∨
      ∃ colour, IsColourName colour ∧ (mark files path = "/" ∨ mark files path = "*") ∧
        message = within colour (escape name ++ mark files path) := by
  unfold listed at h
  unfold mark
  cases hdirectory : files.isDirectory path with
  | error fault => simp [hdirectory, bind, Except.bind] at h
  | ok directory =>
    rw [hdirectory] at h
    cases directory with
    | true =>
      obtain rfl := Except.ok.inj h
      exact .inr ⟨"blue", Markup.isColourName_of_ofName? rfl, .inl rfl, rfl⟩
    | false =>
      cases hfile : files.isFile path with
      | error fault => simp [hfile, bind, Except.bind] at h
      | ok file =>
        rw [hfile] at h
        cases file with
        | false => exact .inl ⟨rfl, (Except.ok.inj h).symm⟩
        | true =>
          cases hprogram : files.isExecutable path with
          | false =>
            rw [hprogram] at h
            exact .inl ⟨rfl, (Except.ok.inj h).symm⟩
          | true =>
            rw [hprogram] at h
            exact .inr ⟨"green", Markup.isColourName_of_ofName? rfl, .inr rfl, (Except.ok.inj h).symm⟩

theorem shown_listed_iff (h : output.terminal = false) (errors : Console) {files : Files} {path name message : String}
    (hlisted : listed files path name = .ok message) (hname : Steady name.toList) :
    (Event.info message).shown output errors = (name ++ mark files path ++ "\n", "") ↔ KeptElsewhere name := by
  rcases listed_eq_ok hlisted with ⟨hmark, rfl⟩ | ⟨colour, hcolour, hmark, rfl⟩
  · rw [hmark, String.append_empty, Event.shown_escape_iff h errors hname]
  · rcases hmark with hmark | hmark
    all_goals
      rw [hmark]
      exact Event.shown_marked_iff h errors hcolour (by decide) (by decide) hname

/-- The entries of a directory are listed in order, up to one that cannot be looked at. -/
theorem listEntries_tells (directory : Path) (s : Shell) (names : List String) :
    ∃ printed rest messages, names = printed ++ rest ∧
      (listEntries directory s names).1.events = s.events ++ messages.map Event.info ∧
      (rest = [] ↔ (listEntries directory s names).2 = none) ∧
      List.Forall₂ (fun name message => listed s.files (directory.child name).text name = .ok message)
        printed messages := by
  induction names generalizing s with
  | nil => exact ⟨[], [], [], rfl, (List.append_nil _).symm, Iff.intro (fun _ => rfl) fun _ => rfl, .nil⟩
  | cons name names ih =>
    rw [listEntries]
    cases hlisted : listed s.files (directory.child name).text name with
    | error fault => exact ⟨[], name :: names, [], rfl, (List.append_nil _).symm, by simp [Outcome.fail], .nil⟩
    | ok message =>
      obtain ⟨printed, rest, messages, heq, hevents, hend, hall⟩ := ih (s.inform message)
      refine ⟨name :: printed, rest, message :: messages, by rw [heq, List.cons_append], ?_, hend, .cons hlisted hall⟩
      rw [hevents, List.map_cons]
      exact List.append_assoc ..

/-- What the user calls the directory that is listed. -/
def listOperand (args : List String) : String :=
  match firstOperand? args with
  | some "" | none => "."
  | some operand => operand

/-- The entries of a directory that are listed. -/
def listedNames (args names : List String) : List String :=
  names.filter fun name => hiddenOptions.any args.contains || !name.startsWith "."

theorem listDirectory_eq (s : Shell) (args : List String) :
    listDirectory s args =
      match s.files.list (Path.ofText (listOperand args)).text with
      | .error fault => Outcome.refuse s (listOperand args) fault
      | .ok names => listEntries (Path.ofText (listOperand args)) s (listedNames args names) := by
  unfold listDirectory listOperand listedNames
  rfl

theorem foldl_inform_events (line : String → String) (names : List String) (s : Shell) :
    (names.foldl (fun s name => s.inform (line name)) s).events =
      s.events ++ names.map fun name => Event.info (line name) := by
  induction names generalizing s with
  | nil => exact (List.append_nil _).symm
  | cons name names ih =>
    rw [List.foldl_cons, ih, List.map_cons]
    exact List.append_assoc ..

theorem showHelp_events (s : Shell) :
    (showHelp s).1.events =
      s.events ++ Event.info (within "cyan" "Available custom commands:") ::
        (s.registry.names.map fun name => Event.info ("  " ++ coloured "green" "" name "")) ++
        [.info (within "cyan" "\nStandard shell commands are also supported.")] := by
  have hnames := foldl_inform_events (fun name => "  " ++ coloured "green" "" name "") s.registry.names
    (s.inform (within "cyan" "Available custom commands:"))
  refine (congrArg (· ++ [Event.info _]) hnames).trans ?_
  simp [Shell.inform, Shell.tell]

/-- The address of a QR code for a text. -/
def addressOf (data : String) : String := qrCodeAddress ++ Text.percentEncode data

theorem qrCode_eq_tellAll (s : Shell) {args : List String} (h : Text.spaced args ≠ "") :
    qrCode s args =
      Outcome.well (s.tellAll
        [.info (coloured "yellow" "Creating QR code for: " (Text.spaced args) ""),
          .info (coloured "green" "QR code URL: " (addressOf (Text.spaced args)) ""),
          .info (within "cyan" "Open this URL in your browser to see the QR code")]) := by
  have hdata : (Text.spaced args).isEmpty = false := by simpa using h
  unfold qrCode
  simp only [hdata]
  simp [Outcome.well, Shell.inform, Shell.tell, Shell.tellAll, addressOf]

theorem qrCode_events (s : Shell) {args : List String} (h : Text.spaced args ≠ "") :
    ∃ rest, (qrCode s args).1.events =
      s.events ++ Event.info (coloured "yellow" "Creating QR code for: " (Text.spaced args) "") :: rest := by
  rw [qrCode_eq_tellAll s h]
  exact ⟨_, rfl⟩

end Builtin

/-! ### What becomes of escaped texts -/

namespace Event

open Console (Steady)
open Markup (KeptBeforeTag KeptElsewhere IsColourName within escape)

/-- How escaped texts come out on two consoles: in a message of a colour, in a warning and in a message of their own,
and what is printed of the names in a listing, of registered names in the help, and of the data of a QR code. -/
structure PrintsEscaped (output errors : Console) : Prop where
  coloured : ∀ colour s, IsColourName colour → Steady s.toList →
    ((info (within colour (escape s))).shown output errors = (s ++ "\n", "") ↔ KeptBeforeTag s)
  warning : ∀ s : String, Steady s.toList → ((Event.warning s).shown output errors = ("", s ++ "\n") ↔ KeptBeforeTag s)
  bare : ∀ s : String, Steady s.toList → ((info (escape s)).shown output errors = (s ++ "\n", "") ↔ KeptElsewhere s)
  /-- A listing tells of the entries in order; it ends early at one that cannot be looked at. -/
  listing : ∀ (s : Shell) (args names : List String),
    s.files.list (Path.ofText (Builtin.listOperand args)).text = .ok names →
    ∃ printed rest messages, Builtin.listedNames args names = printed ++ rest ∧
      (Builtin.listDirectory s args).1.events = s.events ++ messages.map info ∧
      (rest = [] ↔ (Builtin.listDirectory s args).2 = none) ∧
      List.Forall₂
        (fun name message => Steady name.toList →
          ((info message).shown output errors =
              (name ++ Builtin.mark s.files ((Path.ofText (Builtin.listOperand args)).child name).text ++ "\n", "") ↔
            KeptElsewhere name))
        printed messages
  help : ∀ s : Shell, ∃ messages,
    (Builtin.showHelp s).1.events =
      s.events ++ info (within "cyan" "Available custom commands:") :: messages ++
        [info (within "cyan" "\nStandard shell commands are also supported.")] ∧
    List.Forall₂
      (fun name message => Steady name.toList →
        (message.shown output errors = ("  " ++ name ++ "\n", "") ↔ KeptBeforeTag name))
      s.registry.names messages
  address : ∀ (s : Shell) (args : List String), Text.spaced args ≠ "" →
    ∃ message rest, (Builtin.qrCode s args).1.events = s.events ++ message :: rest ∧
      (Steady (Text.spaced args).toList →
        (message.shown output errors = ("Creating QR code for: " ++ Text.spaced args ++ "\n", "") ↔
          KeptBeforeTag (Text.spaced args)))

/-- On consoles that are no terminals an escaped text is shown as it is exactly if each bracket behind a backslash in it
begins a tag, and the backslashes at its end come through: one at most before a closing tag, and any number but one
elsewhere. -/
theorem escaped_texts {output errors : Console} (ho : output.terminal = false) (he : errors.terminal = false) :
    PrintsEscaped output errors where
  coloured colour s hcolour hs := by
    have h := @shown_coloured_iff output ho errors "" colour "" s (by decide) hcolour (by decide) hs
    rwa [Builtin.coloured, String.empty_append, String.empty_append, String.append_empty, String.empty_append,
      String.empty_append] at h
  warning s hs := shown_warning_iff output he hs
  bare s hs := shown_escape_iff ho errors hs
  listing s args names hnames := by
    obtain ⟨printed, rest, messages, heq, hevents, hend, hall⟩ :=
      Builtin.listEntries_tells (Path.ofText (Builtin.listOperand args)) s (Builtin.listedNames args names)
    refine ⟨printed, rest, messages, heq, ?_, ?_, hall.imp fun _ _ => Builtin.shown_listed_iff ho errors⟩
    · rw [Builtin.listDirectory_eq, hnames]
      exact hevents
    · rw [Builtin.listDirectory_eq, hnames]
      exact hend
  help s := by
    refine ⟨_, Builtin.showHelp_events s, ?_⟩
    rw [List.forall₂_map_right_iff, List.forall₂_same]
    intro name _ hname
    have h := @shown_coloured_iff output ho errors "  " "green" "" name (by decide)
      (Markup.isColourName_of_ofName? rfl) (by decide) hname
    rwa [String.append_empty] at h
  address s args h := by
    obtain ⟨rest, hevents⟩ := Builtin.qrCode_events s h
    refine ⟨_, rest, hevents, fun hdata => ?_⟩
    have h := @shown_coloured_iff output ho errors "" "yellow" "Creating QR code for: " (Text.spaced args) (by decide)
      (Markup.isColourName_of_ofName? rfl) (by decide) hdata
    rwa [String.empty_append, String.empty_append] at h

/-- Brackets around what is no colour are printed. -/
theorem escaped_texts_brackets :
    Console.plain.terminal = false ∧ (warning "careful [x]").shown .plain .plain = ("", "careful [x]\n") :=
  ⟨rfl, ((escaped_texts rfl rfl).warning "careful [x]" (by decide)).2
    ⟨fun _ h => absurd (h.mem List.mem_cons_self) (by decide), by decide⟩⟩

/-- Of two backslashes at the end of a warning one is lost. -/
theorem warning_loses_backslash :
    Steady "C:\\\\".toList ∧ (warning "C:\\\\").shown .plain .plain ≠ ("", "C:\\\\\n") := by
  have hsteady : Steady "C:\\\\".toList := by decide
  refine ⟨hsteady, fun h => ?_⟩
  have hends := ((shown_warning_iff .plain (show Console.plain.terminal = false from rfl) hsteady).1 h).2
  exact absurd hends (by decide)

end Event

end CommandShell
