import DeviceTwin.Config.Store
import DeviceTwin.Proofs.Json.Values
import DeviceTwin.Proofs.Text.Utf8
import Mathlib.Data.List.ReduceOption

/-!
# The layout of a configuration file does not matter

A file may give any of the settings, in any order, with members that mean nothing between them and
with white space between all tokens; every text may be spelled as JSON allows it.  `IsLayout` holds
of all such files.  What is read is the configuration with the settings that are given and the
defaults for the others (`Config.only`), so it depends on nothing else
(`read_ignores_layout`).  Only one thing is refused: a setting that is given twice (`Repeats`).

The reader keeps a draft of the members it has seen.  Each member moves the draft that holds the
settings under some keys to the one that holds its own as well (`readMember_of_isMember`), and a
list of members is read by induction (`readMembers_of_listed`).
-/

namespace DeviceTwin.Config

open Json
open scoped List

/-! ## Layouts -/

/-- A value that gives the setting of a configuration under a key. -/
def Gives (c : Config) (k : Key) (v : Text) : Prop :=
  match k with
  | .remoteName => IsString c.remoteName v
  | .connectOnLaunch => v = renderFlag c.connectOnLaunch
  | .startOnLaunch => v = renderFlag c.startOnLaunch
  | .logLevel => IsString c.verbosity.name v
  | .eventBuffer => v = Numeral.render c.eventBuffer.toNat

/-- A member with a key and a value of the given kind. -/
def IsMemberOf (name : Text) (IsGiven : Text → Prop) (t : Text) : Prop :=
  ∃ key, Denotes key name ∧ ∃ colon, Blank colon ∧ ∃ before, Blank before ∧ ∃ v, IsGiven v ∧
    t = '"' :: (key ++ '"' :: (colon ++ ':' :: (before ++ v)))

/-- A member that gives the setting under a key, or one whose key is not known.  A member of the
second kind may hold any value, but its key has to denote a text. -/
inductive IsMember (c : Config) : Option Key → Text → Prop where
  | known {k : Key} {t : Text} (h : IsMemberOf k.name (c.Gives k) t) : IsMember c (some k) t
  | unknown {name t : Text} (hname : ∀ k : Key, k.name ≠ name) (h : IsMemberOf name IsValue t) :
    IsMember c none t

/-- Members with commas between them. -/
inductive Listed (c : Config) : List (Option Key) → Text → Prop where
  | one {m : Option Key} {t : Text} (hm : IsMember c m t) : Listed c [m] t
  | more {m : Option Key} {t after before u : Text} {ms : List (Option Key)}
    (hm : IsMember c m t) (hafter : Blank after) (hbefore : Blank before) (hms : Listed c ms u) :
    Listed c (m :: ms) (t ++ (after ++ ',' :: (before ++ u)))

/-- An object with the given members. -/
inductive IsObject (c : Config) : List (Option Key) → Text → Prop where
  | empty {inner : Text} (h : Blank inner) : IsObject c [] ('{' :: (inner ++ ['}']))
  | filled {before t after : Text} {ms : List (Option Key)} (hbefore : Blank before)
    (hms : Listed c ms t) (hafter : Blank after) :
    IsObject c ms ('{' :: (before ++ (t ++ (after ++ ['}']))))

/-- An object with the given members and nothing else but white space. -/
def IsLayout (c : Config) (ms : List (Option Key)) (t : Text) : Prop :=
  ∃ before, Blank before ∧ ∃ object, IsObject c ms object ∧ ∃ after, Blank after ∧
    t = before ++ (object ++ after)

/-- A text in which, behind members that are in order, a key comes that one of them had already.
Nothing is said about what follows that key. -/
def Repeats (c : Config) (k : Key) (t : Text) : Prop :=
  ∃ ms u, Listed c ms u ∧ ms.reduceOption.Nodup ∧ k ∈ ms.reduceOption ∧
    ∃ before, Blank before ∧ ∃ inner, Blank inner ∧ ∃ after, Blank after ∧ ∃ lead, Blank lead ∧
      ∃ key, Denotes key k.name ∧ ∃ rest,
        t = before ++ '{' ::
          (inner ++ (u ++ (after ++ ',' :: (lead ++ '"' :: (key ++ '"' :: rest)))))

/-- The configuration with the settings of another one under the given keys and the defaults under
all others. -/
def only (c : Config) (keys : List Key) : Config :=
  let base : Config := {}
  { remoteName := if .remoteName ∈ keys then c.remoteName else base.remoteName
    connectOnLaunch := if .connectOnLaunch ∈ keys then c.connectOnLaunch else base.connectOnLaunch
    startOnLaunch := if .startOnLaunch ∈ keys then c.startOnLaunch else base.startOnLaunch
    verbosity := if .logLevel ∈ keys then c.verbosity else base.verbosity
    eventBuffer := if .eventBuffer ∈ keys then c.eventBuffer else base.eventBuffer }

/-! ## Drafts -/

/-- The draft that holds the settings of a configuration under the given keys. -/
def draft (c : Config) (keys : List Key) : Draft where
  remoteName := if .remoteName ∈ keys then some c.remoteName else none
  connectOnLaunch := if .connectOnLaunch ∈ keys then some c.connectOnLaunch else none
  startOnLaunch := if .startOnLaunch ∈ keys then some c.startOnLaunch else none
  verbosity := if .logLevel ∈ keys then some c.verbosity else none
  eventBuffer := if .eventBuffer ∈ keys then some c.eventBuffer else none

variable {c : Config} {keys : List Key} {k : Key} {rest : Text}

theorem draft_congr {keys' : List Key} (h : ∀ k, k ∈ keys ↔ k ∈ keys') :
    c.draft keys = c.draft keys' := by
  simp only [draft, h]

theorem complete_draft (c : Config) (keys : List Key) : (c.draft keys).complete = c.only keys := by
  have hgiven : ∀ {α : Type} (k : Key) (a base : α),
      (if k ∈ keys then some a else none).getD base = if k ∈ keys then a else base := by
    intro α k a base
    split <;> rfl
  show Config.mk _ _ _ _ _ = Config.mk _ _ _ _ _
  congr 1
  · exact hgiven _ _ _
  · exact hgiven _ _ _
  · exact hgiven _ _ _
  · exact hgiven _ _ _
  · exact hgiven _ _ _

theorem only_congr {keys' : List Key} (h : ∀ k, k ∈ keys ↔ k ∈ keys') :
    c.only keys = c.only keys' := by
  rw [← complete_draft, draft_congr h, complete_draft]

theorem has_draft_iff : (c.draft keys).has k = true ↔ k ∈ keys := by
  cases k <;> simp [Draft.has, draft, Option.isSome_ite]

/-! ## Reading values -/

section Values

variable {before v : Text}

theorem dropSpace_string {body : Text} (hbefore : Blank before) (rest : Text) :
    dropSpace (before ++ ('"' :: body ++ ['"'] ++ rest)) = '"' :: (body ++ '"' :: rest) := by
  rw [List.append_assoc]
  exact dropSpace_append_cons hbefore rfl _

theorem readText_of_isString {t : Text} (e : Expected) (hbefore : Blank before)
    (h : IsString t v) (rest : Text) : readText e (before ++ (v ++ rest)) = .ok (t, rest) := by
  obtain ⟨body, hbody, rfl⟩ := h
  simp only [readText, dropSpace_string hbefore, readString_of_denotes hbody]

theorem readFlag_renderFlag (b : Bool) (hbefore : Blank before) (rest : Text) :
    readFlag (before ++ (renderFlag b ++ rest)) = .ok (b, rest) := by
  cases b with
  | true =>
    have hfirst : dropSpace (before ++ (renderFlag true ++ rest)) = 't' :: ("rue".toList ++ rest) :=
      dropSpace_append_cons hbefore rfl _
    simp only [readFlag, hfirst, readWord_append]
  | false =>
    have hfirst : dropSpace (before ++ (renderFlag false ++ rest)) =
        'f' :: ("alse".toList ++ rest) :=
      dropSpace_append_cons hbefore rfl _
    simp only [readFlag, hfirst, readWord_append]

theorem readVerbosity_of_isString {level : Log.Verbosity} (hbefore : Blank before)
    (h : IsString level.name v) (rest : Text) :
    readVerbosity (before ++ (v ++ rest)) = .ok (level, rest) := by
  obtain ⟨body, hbody, rfl⟩ := h
  have hword : readText .choice ('"' :: (body ++ '"' :: rest)) = .ok (level.name, rest) := by
    have htext := readText_of_isString .choice blank_nil ⟨body, hbody, rfl⟩ rest
    rwa [List.nil_append, List.cons_append, List.cons_append, List.append_assoc] at htext
  simp only [readVerbosity, dropSpace_string hbefore, readWordOfVerbosity, hword,
    Log.Verbosity.ofName?_name]

theorem readCount_render (n : UInt64) (hbefore : Blank before) (hrest : Ends rest) :
    readCount (before ++ (Numeral.render n.toNat ++ rest)) = .ok (n, rest) := by
  have hnumber := readNumber_render n.toNat_lt hrest
  obtain ⟨d, digits, hrender, hd⟩ := exists_first_render n.toNat
  obtain ⟨hspace, -⟩ := not_mark_of_first (Or.inr hd)
  have hfirst : dropSpace (before ++ (Numeral.render n.toNat ++ rest)) = d :: (digits ++ rest) := by
    rw [hrender]
    exact dropSpace_append_cons hbefore hspace _
  rw [hrender, List.cons_append] at hnumber
  unfold readCount
  rw [hfirst]
  split
  · next hnil => cases hnil
  · next hminus =>
    cases hminus
    cases hd
  · next hcons =>
    cases hcons
    rw [if_pos hd, hnumber]
    simp [countOfNumber, UInt64.ofNat_toNat]

/-- The value under a key moves the draft on by that key. -/
theorem readValue_of_gives (h : c.Gives k v) (hbefore : Blank before) (hrest : Ends rest) :
    readValue (c.draft keys) k (before ++ (v ++ rest)) = .ok (c.draft (k :: keys), rest) := by
  cases k with
  | remoteName =>
    rw [readValue, readText_of_isString .text hbefore h]
    simp [Except.map, draft]
  | connectOnLaunch =>
    obtain rfl : v = renderFlag c.connectOnLaunch := h
    rw [readValue, readFlag_renderFlag _ hbefore]
    simp [Except.map, draft]
  | startOnLaunch =>
    obtain rfl : v = renderFlag c.startOnLaunch := h
    rw [readValue, readFlag_renderFlag _ hbefore]
    simp [Except.map, draft]
  | logLevel =>
    rw [readValue, readVerbosity_of_isString hbefore h]
    simp [Except.map, draft]
  | eventBuffer =>
    obtain rfl : v = Numeral.render c.eventBuffer.toNat := h
    rw [readValue, readCount_render _ hbefore hrest]
    simp [Except.map, draft]

end Values

/-! ## Reading members -/

theorem readColon_of_blank {colon : Text} (h : Blank colon) (rest : Text) :
    readColon (colon ++ ':' :: rest) = .ok rest := by
  have hfirst : dropSpace (colon ++ ':' :: rest) = ':' :: rest := dropSpace_append_cons h rfl rest
  simp only [readColon, hfirst]

theorem ofName?_eq_none {name : Text} (h : ∀ k : Key, k.name ≠ name) : Key.ofName? name = none := by
  simp [Key.ofName?, h]

/-- A member begins with the opening mark of its key, and behind that mark it moves the draft on by
its own key, if that key is known. -/
theorem readMember_of_isMember {m : Option Key} {t : Text} (h : IsMember c m t)
    (hnew : ∀ k ∈ m, k ∉ keys) (hrest : Ends rest) :
    ∃ s, t = '"' :: s ∧
      readMember (c.draft keys) (s ++ rest) = .ok (c.draft (m.toList ++ keys), rest) := by
  cases h with
  | @known k t h =>
    obtain ⟨key, hkey, colon, hcolon, before, hbefore, v, hv, rfl⟩ := h
    refine ⟨_, rfl, ?_⟩
    have hhas : (c.draft keys).has k = false := by
      rw [Bool.eq_false_iff, Ne, has_draft_iff]
      exact hnew k rfl
    simp only [List.append_assoc, List.cons_append, readMember, readString_of_denotes hkey,
      Key.ofName?_name, hhas, Bool.false_eq_true, if_false, readColon_of_blank hcolon]
    exact readValue_of_gives hv hbefore hrest
  | unknown hname h =>
    obtain ⟨key, hkey, colon, hcolon, before, hbefore, v, hv, rfl⟩ := h
    refine ⟨_, rfl, ?_⟩
    simp only [List.append_assoc, List.cons_append, readMember, readString_of_denotes hkey,
      ofName?_eq_none hname, readColon_of_blank hcolon, skipValue_of_isValue hbefore hv hrest]
    rfl

theorem cause_duplicateFault (k : Key) (t : Text) :
    (duplicateFault k t).cause = .duplicateKey k.name := by
  unfold duplicateFault
  split <;> rfl

/-- Reads a member behind its opening mark and what follows it. -/
def readOn (d : Draft) (t : Text) : Except Fault (Draft × Text) :=
  (readMember d t).bind fun p => readMembers p.1 p.2

/-- A key that the draft has already is refused at once. -/
theorem readOn_of_repeated {key : Text} (hkey : Denotes key k.name) (h : k ∈ keys) (rest : Text) :
    readOn (c.draft keys) (key ++ '"' :: rest) = .error (duplicateFault k rest) := by
  have hmember : readMember (c.draft keys) (key ++ '"' :: rest) =
      .error (duplicateFault k rest) := by
    simp only [readMember, readString_of_denotes hkey, Key.ofName?_name, has_draft_iff.2 h,
      if_true]
  rw [readOn, hmember]
  rfl

theorem readMembers_comma (d : Draft) {after before : Text} (hafter : Blank after)
    (hbefore : Blank before) (t : Text) :
    readMembers d (after ++ ',' :: (before ++ '"' :: t)) = readOn d t := by
  have hcomma : dropSpace (after ++ ',' :: (before ++ '"' :: t)) = ',' :: (before ++ '"' :: t) :=
    dropSpace_append_cons hafter rfl _
  have hmark : dropSpace (before ++ '"' :: t) = '"' :: t := dropSpace_append_cons hbefore rfl t
  rw [readMembers, readOn]
  split
  · next hend => rw [hcomma] at hend; cases hend
  · next hend => rw [hcomma] at hend; cases hend
  · next members hmembers =>
    rw [hcomma] at hmembers
    cases hmembers
    split
    · next hend => rw [hmark] at hend; cases hend
    · next hend => rw [hmark] at hend; cases hend
    · next member hmember =>
      rw [hmark] at hmember
      cases hmember
      split
      · next f hf => rw [hf]; rfl
      · next d' last hlast => rw [hlast]; rfl
    · next hnone => exact absurd hmark (hnone t)
  · next hnone => exact absurd hcomma (hnone _)

theorem readMembers_closing (d : Draft) {after : Text} (hafter : Blank after) (rest : Text) :
    readMembers d (after ++ '}' :: rest) = .ok (d, rest) := by
  have hclosing : dropSpace (after ++ '}' :: rest) = '}' :: rest :=
    dropSpace_append_cons hafter rfl rest
  rw [readMembers]
  split
  · next hend => rw [hclosing] at hend; cases hend
  · next hend => rw [hclosing] at hend; cases hend; rfl
  · next hcomma => rw [hclosing] at hcomma; cases hcomma
  · next hnone _ => exact absurd hclosing (hnone rest)

theorem reduceOption_cons (m : Option Key) (ms : List (Option Key)) :
    (m :: ms).reduceOption = m.toList ++ ms.reduceOption := by
  cases m with
  | none => rfl
  | some k => rfl

theorem readOn_of_isMember {m : Option Key} {t : Text} (h : IsMember c m t)
    (hnodup : (m.toList ++ keys).Nodup) (hrest : Ends rest) :
    ∃ s, t = '"' :: s ∧
      readOn (c.draft keys) (s ++ rest) = readMembers (c.draft (m.toList ++ keys)) rest := by
  have hnew : ∀ k ∈ m, k ∉ keys := fun k hk hkeys =>
    (List.nodup_append.1 hnodup).2.2 k (Option.mem_toList.2 hk) k hkeys rfl
  obtain ⟨s, hs, hread⟩ := readMember_of_isMember h hnew hrest
  refine ⟨s, hs, ?_⟩
  rw [readOn, hread]
  rfl

/-- Members are read one after the other, up to what follows the last of them. -/
theorem readMembers_of_listed {ms : List (Option Key)} {t : Text} (h : Listed c ms t)
    (hnodup : (ms.reduceOption ++ keys).Nodup) (hrest : Ends rest) :
    ∃ s, t = '"' :: s ∧
      readOn (c.draft keys) (s ++ rest) = readMembers (c.draft (ms.reduceOption ++ keys)) rest := by
  induction h generalizing keys with
  | @one m t hm =>
    rw [reduceOption_cons, List.reduceOption_nil, List.append_nil] at hnodup ⊢
    exact readOn_of_isMember hm hnodup hrest
  | @more m t after before u ms hm hafter hbefore hms ih =>
    rw [reduceOption_cons] at hnodup ⊢
    -- The member goes first into the draft, and the others are read on top of it.
    have hperm : ms.reduceOption ++ (m.toList ++ keys) ~ m.toList ++ ms.reduceOption ++ keys := by
      rw [← List.append_assoc]
      exact List.perm_append_comm.append_right keys
    have hothers := hperm.nodup_iff.2 hnodup
    obtain ⟨s', rfl, hlast⟩ := ih hothers
    obtain ⟨s, rfl, hfirst⟩ := readOn_of_isMember hm (List.nodup_append.1 hothers).2.1
      (ends_append hafter (Or.inl rfl) (before ++ '"' :: (s' ++ rest)))
    refine ⟨s ++ (after ++ ',' :: (before ++ '"' :: s')), rfl, ?_⟩
    have hkeys : c.draft (ms.reduceOption ++ (m.toList ++ keys)) =
        c.draft (m.toList ++ ms.reduceOption ++ keys) := draft_congr fun k => hperm.mem_iff
    simp only [List.append_assoc, List.cons_append]
    rw [hfirst, readMembers_comma _ hafter hbefore, hlast, hkeys, List.append_assoc]

/-! ## Reading files -/

theorem readObject_members {before : Text} (h : Blank before) (t : Text) :
    readObject (before ++ '"' :: t) = readOn {} t := by
  have hmark : dropSpace (before ++ '"' :: t) = '"' :: t := dropSpace_append_cons h rfl t
  rw [readObject, readOn]
  simp only [hmark]
  cases readMember {} t with
  | error f => rfl
  | ok p => rfl

/-- Behind an opening bracket, members are read into the draft that holds nothing. -/
theorem readObject_listed {ms : List (Option Key)} {before t : Text} (hbefore : Blank before)
    (hms : Listed c ms t) (hnodup : ms.reduceOption.Nodup) (hrest : Ends rest) :
    readObject (before ++ (t ++ rest)) = readMembers (c.draft ms.reduceOption) rest := by
  rw [← List.append_nil ms.reduceOption] at hnodup
  obtain ⟨s, rfl, hread⟩ := readMembers_of_listed hms hnodup hrest
  have hstart : c.draft [] = {} := rfl
  rw [hstart, List.append_nil] at hread
  rw [List.cons_append, readObject_members hbefore, hread]

theorem readDraft_object {before : Text} (h : Blank before) (t : Text) :
    readDraft (before ++ '{' :: t) = readObject t := by
  have hopening : dropSpace (before ++ '{' :: t) = '{' :: t := dropSpace_append_cons h rfl t
  simp only [readDraft, hopening]

theorem readObject_of_isObject {ms : List (Option Key)} {object : Text} (h : IsObject c ms object)
    (hnodup : ms.reduceOption.Nodup) (rest : Text) :
    ∃ s, object = '{' :: s ∧ readObject (s ++ rest) = .ok (c.draft ms.reduceOption, rest) := by
  cases h with
  | @empty inner h =>
    refine ⟨_, rfl, ?_⟩
    have hclosing : dropSpace (inner ++ ['}'] ++ rest) = '}' :: rest := by
      rw [List.append_assoc]
      exact dropSpace_append_cons h rfl rest
    simp only [readObject, hclosing]
    rfl
  | @filled before t after ms hbefore hms hafter =>
    refine ⟨_, rfl, ?_⟩
    have hrest : Ends (after ++ '}' :: rest) := ends_append hafter (Or.inr (Or.inr rfl)) rest
    simp only [List.append_assoc, List.cons_append, List.nil_append]
    rw [readObject_listed hbefore hms hnodup hrest, readMembers_closing _ hafter]

/-- A layout is parsed as the configuration with the settings that it gives. -/
theorem parse_of_isLayout {ms : List (Option Key)} {t : Text} (h : IsLayout c ms t)
    (hnodup : ms.reduceOption.Nodup) : parse t = .ok (c.only ms.reduceOption) := by
  obtain ⟨before, hbefore, object, hobject, after, hafter, rfl⟩ := h
  obtain ⟨s, rfl, hread⟩ := readObject_of_isObject hobject hnodup after
  rw [parse, List.cons_append, readDraft_object hbefore, hread]
  simp only [dropSpace_of_blank hafter, complete_draft]

/-- A repeated key is what is wrong with a text in which one repeats. -/
theorem parse_of_repeats {t : Text} (h : Repeats c k t) :
    ∃ e, parse t = .error e ∧ e.cause = .duplicateKey k.name := by
  obtain ⟨ms, u, hms, hnodup, hk, before, hbefore, inner, hinner, after, hafter, lead, hlead, key,
    hkey, rest, rfl⟩ := h
  have hrest : Ends (after ++ ',' :: (lead ++ '"' :: (key ++ '"' :: rest))) :=
    ends_append hafter (Or.inl rfl) _
  rw [parse, readDraft_object hbefore, readObject_listed hinner hms hnodup hrest,
    readMembers_comma _ hafter hlead, readOn_of_repeated hkey hk]
  exact ⟨_, rfl, cause_duplicateFault k rest⟩

theorem read_eq_ofBytes {files : Files.Tree} {path : Files.Path} {content : Bytes}
    (h : files.read path = .ok content) : read files path = ofBytes content := by
  rw [read, h]

/-- What is read from a file with a layout: the settings that it gives, unless the buffer is too
large to be used. -/
theorem ofBytes_of_isLayout {ms : List (Option Key)} {t : Text} (h : IsLayout c ms t)
    (hnodup : ms.reduceOption.Nodup) :
    ofBytes (Utf8.encode t) =
      if (c.only ms.reduceOption).eventBuffer.toNat ≤ maxEventBuffer then
        .ok (c.only ms.reduceOption)
      else .error (.bufferTooLarge ⟨(c.only ms.reduceOption).eventBuffer⟩) := by
  have hparse := parse_of_isLayout h hnodup
  have hne : t ≠ [] := by
    rintro rfl
    cases hparse
  simp only [ofBytes, Utf8.encode_ne_nil hne, if_false, Utf8.decode_encode, hparse, validate]
  by_cases hlimit : (c.only ms.reduceOption).eventBuffer.toNat ≤ maxEventBuffer
  · rw [if_neg (Nat.not_lt.2 hlimit), if_pos hlimit]
  · rw [if_pos (Nat.not_le.1 hlimit), if_neg hlimit]

theorem ofBytes_of_repeats {t : Text} (h : Repeats c k t) :
    ∃ e, ofBytes (Utf8.encode t) = .error (.json e) ∧ e.cause = .duplicateKey k.name := by
  obtain ⟨e, hparse, hcause⟩ := parse_of_repeats h
  have hne : t ≠ [] := by
    rintro rfl
    cases hparse
    cases hcause
  refine ⟨e, ?_, hcause⟩
  simp only [ofBytes, Utf8.encode_ne_nil hne, if_false, Utf8.decode_encode, hparse]

/-- The buffer that is read is the one given, or the default, which can always be used. -/
theorem eventBuffer_only_le (h : .eventBuffer ∈ keys → c.eventBuffer.toNat ≤ maxEventBuffer) :
    (c.only keys).eventBuffer.toNat ≤ maxEventBuffer := by
  have hbuffer : (c.only keys).eventBuffer =
      if .eventBuffer ∈ keys then c.eventBuffer else 64 := rfl
  rw [hbuffer]
  split
  · next hmem => exact h hmem
  · decide

/-- The layout of a file does not matter.  A file that gives each of some settings once is read as
the configuration with those settings and the defaults for the others; any other file that gives the
same settings, in another order and with other members between them, is read alike; and a setting
that comes a second time is refused as data of the wrong shape. -/
theorem read_ignores_layout (c : Config) (files : Files.Tree) (path : Files.Path) (t : Text)
    (hfile : files.read path = .ok (Utf8.encode t)) :
    (∀ ms, IsLayout c ms t → ms.reduceOption.Nodup →
      (.eventBuffer ∈ ms.reduceOption → c.eventBuffer.toNat ≤ 65536) →
      read files path = .ok (c.only ms.reduceOption)) ∧
    (∀ ms ms' t' files' path', IsLayout c ms t → IsLayout c ms' t' → ms.reduceOption.Nodup →
      ms.reduceOption ~ ms'.reduceOption → Files.Tree.read files' path' = .ok (Utf8.encode t') →
      read files' path' = read files path) ∧
    ∀ k, Repeats c k t → ∃ e, read files path = .error (.json e) ∧
      e.cause = .duplicateKey k.name ∧ e.cause.category = .mistyped := by
  refine ⟨?_, ?_, ?_⟩
  · intro ms hlayout hnodup hlimit
    rw [read_eq_ofBytes hfile, ofBytes_of_isLayout hlayout hnodup]
    exact if_pos (eventBuffer_only_le hlimit)
  · intro ms ms' t' files' path' hlayout hlayout' hnodup hperm hfile'
    have hsame : c.only ms'.reduceOption = c.only ms.reduceOption :=
      only_congr fun k => hperm.symm.mem_iff
    rw [read_eq_ofBytes hfile, read_eq_ofBytes hfile', ofBytes_of_isLayout hlayout hnodup,
      ofBytes_of_isLayout hlayout' (hperm.nodup_iff.1 hnodup), hsame]
  · intro k hrepeats
    obtain ⟨e, he, hcause⟩ := ofBytes_of_repeats hrepeats
    refine ⟨e, ?_, hcause, ?_⟩
    · rw [read_eq_ofBytes hfile, he]
    · rw [hcause]
      rfl

/-- A file with an unknown member between two settings, one of them under an escaped key, one that
gives the same settings the other way round, and one that gives a setting twice. -/
theorem read_ignores_layout_mixed :
    let c : Config := { remoteName := "rtu".toList, eventBuffer := 7 }
    let file := fun (t : String) =>
      ({ entries := [(["c".toList], .file (Utf8.encode t.toList))] } : Files.Tree)
    let mixed := "\x7b\"eventBuffer\" : 7,\"x\":[null,-1.5e3] ,\n\"\\u0072emoteName\":\"rtu\"\x7d"
    let turned := "\x7b\"remoteName\":\"rtu\",\"eventBuffer\":7\x7d"
    let twice := "\x7b\"eventBuffer\":7,\"eventBuffer\":8"
    read (file mixed) "c".toList = .ok c ∧
      read (file turned) "c".toList = read (file mixed) "c".toList ∧
      ∃ e, read (file twice) "c".toList = .error (.json e) ∧
        e.cause = .duplicateKey "eventBuffer".toList ∧ e.cause.category = .mistyped := by
  intro c file mixed turned twice
  have hspace : Blank " ".toList := List.forall_mem_singleton.2 rfl
  have hline : Blank "\n".toList := List.forall_mem_singleton.2 rfl
  have hname : IsString c.remoteName "\"rtu\"".toList := isString_quote "rtu".toList
  have hnumber : IsNumber "-1.5e3".toList :=
    ⟨['-'], by simp, 1, ".5".toList, "e3".toList, Or.inr ⟨['5'], rfl, rfl⟩,
      Or.inr ⟨'e', by simp, [], by simp, ['3'], rfl, rfl⟩, rfl⟩
  have hlist : IsValue "[null,-1.5e3]".toList :=
    .filled (.more .list blank_nil (.scalar (.word List.mem_cons_self)) blank_nil
      (.last .list blank_nil (.scalar (.number hnumber)) blank_nil))
  have hseven : c.Gives .eventBuffer ['7'] :=
    (by decide : ['7'] = Numeral.render (UInt64.toNat 7))
  have hbuffer : IsMember c (some .eventBuffer) "\"eventBuffer\":7".toList :=
    .known ⟨_, denotes_escape Key.eventBuffer.name, [], blank_nil, [], blank_nil, _, hseven, rfl⟩
  have hspaced : IsMember c (some .eventBuffer) "\"eventBuffer\" : 7".toList :=
    .known ⟨_, denotes_escape Key.eventBuffer.name, _, hspace, _, hspace, _, hseven, rfl⟩
  have hremote : IsMember c (some .remoteName) "\"remoteName\":\"rtu\"".toList :=
    .known ⟨_, denotes_escape Key.remoteName.name, [], blank_nil, [], blank_nil, _, hname, rfl⟩
  have hescaped : IsMember c (some .remoteName) "\"\\u0072emoteName\":\"rtu\"".toList :=
    .known ⟨_, .cons (.unit rfl) (denotes_escape "emoteName".toList), [], blank_nil, [], blank_nil,
      _, hname, rfl⟩
  have hunknown : ∀ k : Key, k.name ≠ "x".toList := by
    intro k
    cases k <;> decide
  have hother : IsMember c none "\"x\":[null,-1.5e3]".toList :=
    .unknown hunknown ⟨_, denotes_escape "x".toList, [], blank_nil, [], blank_nil, _, hlist, rfl⟩
  have hmixed : IsLayout c [some .eventBuffer, none, some .remoteName] mixed.toList :=
    ⟨[], blank_nil, _, .filled blank_nil
      (.more hspaced blank_nil blank_nil (.more hother hspace hline (.one hescaped))) blank_nil,
      [], blank_nil, by decide⟩
  have hturned : IsLayout c [some .remoteName, some .eventBuffer] turned.toList :=
    ⟨[], blank_nil, _, .filled blank_nil (.more hremote blank_nil blank_nil (.one hbuffer))
      blank_nil, [], blank_nil, by decide⟩
  have htwice : Repeats c .eventBuffer twice.toList :=
    ⟨_, _, .one hbuffer, by decide, by decide, [], blank_nil, [], blank_nil, [], blank_nil, [],
      blank_nil, _, denotes_escape Key.eventBuffer.name, ":8".toList, by decide⟩
  have hread := read_ignores_layout c (file mixed) "c".toList mixed.toList rfl
  refine ⟨?_, ?_, ?_⟩
  · exact hread.1 _ hmixed (by decide) (by decide)
  · exact hread.2.1 _ _ _ _ _ hmixed hturned (by decide) (by decide) rfl
  · exact (read_ignores_layout c (file twice) "c".toList twice.toList rfl).2.2 _ htwice

end DeviceTwin.Config
