import RpcProxy.Exchange.RequestLine
import RpcProxy.Proofs.Config.Sameness
import RpcProxy.Wire

/-!
# Lines are read back

What is written as a line is read back as it was, provided that its words hold together. Status
messages always do, because everything that could end them is escaped. Keys and values are written
as they are, so they have to be words: `Wire.isWritable` says which ones are, and every message that
was read from a line has only such properties.

The condition is exact. A value with a space in it is written and read as something else, and one
with a newline makes two lines of one; so the main statement about responses is an equivalence, and
a reader of this module need not wonder whether more could be written. What counts as a separator is
decided by the reader, and the condition is taken from there.

The main statements: a response is read back from its line exactly if it is writable
(`Response.reads_own_line`), and the line that a host gets for a request is read back up to the
number of the message (`RequestLine.text_reads`). Neither line has a newline except at its end, and
neither have its octets (`Bytes.newline_mem_ofText`).
-/

set_option autoImplicit false

namespace RpcProxy

/-! ## Words

A text is cut into words at blanks. Words that hold none are found again. -/

/-- Whether a text stays in one piece when a line is divided into words. -/
def Text.isWord (s : String) : Bool := s.toList.all (!isSeparator ·)

namespace Text

/-- Words, each behind a space. -/
def spaced (ws : List (List Char)) : List Char := ws.flatMap (' ' :: ·)

def IsRun (w : List Char) : Prop := w ≠ [] ∧ ∀ c ∈ w, isSeparator c = false

theorem words_nil : words [] = [] := by
  rw [words]
  rfl

theorem words_separator {c : Char} (hc : isSeparator c = true) (cs : List Char) :
    words (c :: cs) = words cs := by
  rw [words, words.eq_def cs, List.dropWhile_cons_of_pos hc]

/-- A run ends where a separator begins, or at the end. -/
theorem words_run {w rest : List Char} (hw : IsRun w)
    (hrest : rest = [] ∨ ∃ c cs, rest = c :: cs ∧ isSeparator c = true) :
    words (w ++ rest) = w :: words rest := by
  obtain ⟨hne, hw⟩ := hw
  cases w with
  | nil => exact absurd rfl hne
  | cons c w =>
    have hc : isSeparator c = false := hw c List.mem_cons_self
    have hall : ∀ d ∈ w, (!isSeparator d) = true := by
      intro d hd
      simp [hw d (List.mem_cons_of_mem c hd)]
    have hstop : rest.takeWhile (!isSeparator ·) = [] ∧ rest.dropWhile (!isSeparator ·) = rest := by
      rcases hrest with rfl | ⟨d, ds, rfl, hd⟩
      · exact ⟨rfl, rfl⟩
      · simp [hd]
    rw [words, List.cons_append, List.dropWhile_cons_of_neg (by simp [hc])]
    dsimp only
    rw [List.takeWhile_append_of_pos hall, List.dropWhile_append_of_pos hall, hstop.1, hstop.2,
      List.append_nil]

theorem words_spaced {ws : List (List Char)} (h : ∀ w ∈ ws, IsRun w) : words (spaced ws) = ws := by
  induction ws with
  | nil => exact words_nil
  | cons w ws ih =>
    have hspace : isSeparator ' ' = true := rfl
    have hrest : spaced ws = [] ∨ ∃ c cs, spaced ws = c :: cs ∧ isSeparator c = true := by
      cases ws with
      | nil => exact Or.inl rfl
      | cons v vs => exact Or.inr ⟨' ', v ++ spaced vs, rfl, hspace⟩
    have hcons : spaced (w :: ws) = ' ' :: (w ++ spaced ws) := rfl
    rw [hcons, words_separator hspace, words_run (h w List.mem_cons_self) hrest,
      ih fun v hv => h v (List.mem_cons_of_mem w hv)]

theorem isRun_of_mem_words {cs w : List Char} (h : w ∈ words cs) : IsRun w := by
  fun_induction words cs with
  | case1 cs _ => cases h
  | case2 cs c rest hdrop ih =>
    rcases List.mem_cons.mp h with rfl | h
    · refine ⟨List.cons_ne_nil _ _, fun d hd => ?_⟩
      rcases List.mem_cons.mp hd with rfl | hd
      · have hhead := List.head?_dropWhile_not isSeparator cs
        rw [hdrop] at hhead
        simpa using hhead
      · have hall := List.all_eq_true.mp (List.all_takeWhile (l := rest) (p := (!isSeparator ·))) d hd
        simpa using hall
    · exact ih h

theorem isWord_iff {s : String} : isWord s = true ↔ ∀ c ∈ s.toList, isSeparator c = false := by
  simp [isWord]

theorem isWord_ofList {w : List Char} : isWord (String.ofList w) = true ↔
    ∀ c ∈ w, isSeparator c = false := by
  rw [isWord_iff, String.toList_ofList]

/-! ## Parts of a word

A property is cut at its first equals sign, so that a key must not hold one, and a value may. -/

theorem splitOnce?_append {c : Char} {a : List Char} (ha : c ∉ a) (b : List Char) :
    splitOnce? c (a ++ c :: b) = some (a, b) := by
  have hall : ∀ d ∈ a, (d != c) = true := by
    intro d hd
    simpa using fun heq : d = c => ha (heq ▸ hd)
  unfold splitOnce?
  rw [List.dropWhile_append_of_pos hall, List.takeWhile_append_of_pos hall]
  simp

theorem splitOnce?_eq_some {c : Char} {cs a b : List Char} (h : splitOnce? c cs = some (a, b)) :
    cs = a ++ c :: b ∧ c ∉ a := by
  unfold splitOnce? at h
  cases hdrop : cs.dropWhile (· != c) with
  | nil =>
    rw [hdrop] at h
    cases h
  | cons d rest =>
    rw [hdrop] at h
    obtain ⟨rfl, rfl⟩ := Prod.mk.inj (Option.some.inj h)
    have hd : d = c := by
      have hhead := List.head?_dropWhile_not (· != c) cs
      rw [hdrop] at hhead
      simpa using hhead
    subst hd
    refine ⟨?_, fun hmem => ?_⟩
    · rw [← hdrop, List.takeWhile_append_dropWhile]
    · have hall := List.all_eq_true.mp (List.all_takeWhile (l := cs) (p := (· != d))) d hmem
      simp at hall

end Text

/-! ## Properties

What can be written as a property, and that it is read back. -/

namespace Wire

/-- Whether a property is read back as it was written. -/
def isWritable (e : String × String) : Bool :=
  e.1 != "" && Text.isWord e.1 && !e.1.toList.contains '=' && Text.isWord e.2

def wordOf (e : String × String) : List Char := e.1.toList ++ '=' :: e.2.toList

theorem isWritable_iff {e : String × String} : isWritable e = true ↔
    e.1 ≠ "" ∧ Text.isWord e.1 = true ∧ '=' ∉ e.1.toList ∧ Text.isWord e.2 = true := by
  simp [isWritable, and_assoc]

theorem isRun_wordOf {e : String × String} (h : isWritable e = true) : Text.IsRun (wordOf e) := by
  obtain ⟨-, hkey, -, hvalue⟩ := isWritable_iff.mp h
  refine ⟨by simp [wordOf], fun c hc => ?_⟩
  rcases List.mem_append.mp hc with hc | hc
  · simpa using List.all_eq_true.mp hkey c hc
  · rcases List.mem_cons.mp hc with rfl | hc
    · rfl
    · simpa using List.all_eq_true.mp hvalue c hc

theorem readProperty?_wordOf {e : String × String} (h : isWritable e = true) :
    readProperty? (wordOf e) = some e := by
  obtain ⟨hne, -, heq, -⟩ := isWritable_iff.mp h
  unfold readProperty? wordOf
  rw [Text.splitOnce?_append heq]
  cases hkey : e.1.toList with
  | nil => exact absurd (String.toList_eq_nil_iff.mp hkey) hne
  | cons c cs =>
    dsimp only
    rw [← hkey, String.ofList_toList, String.ofList_toList]

theorem isWritable_of_readProperty? {w : List Char} {e : String × String} (hw : Text.IsRun w)
    (h : readProperty? w = some e) : isWritable e = true := by
  unfold readProperty? at h
  split at h
  · cases h
  · cases h
  · next key value hne hsplit =>
    obtain rfl := Option.some.inj h
    obtain ⟨rfl, heq⟩ := Text.splitOnce?_eq_some hsplit
    refine isWritable_iff.mpr ⟨?_, ?_, by simpa using heq, ?_⟩
    · intro hempty
      have hnil : key = [] := by simpa using hempty
      exact hne hnil
    · exact Text.isWord_ofList.mpr fun c hc => hw.2 c (List.mem_append_left _ hc)
    · refine Text.isWord_ofList.mpr fun c hc => hw.2 c ?_
      exact List.mem_append_right _ (List.mem_cons_of_mem _ hc)

theorem mapM_readProperty? {es : List (String × String)} (h : ∀ e ∈ es, isWritable e = true) :
    (es.map wordOf).mapM readProperty? = some es := by
  induction es with
  | nil => rfl
  | cons e es ih =>
    rw [List.map_cons, List.mapM_cons, readProperty?_wordOf (h e List.mem_cons_self),
      ih fun d hd => h d (List.mem_cons_of_mem e hd)]
    rfl

theorem mem_of_mapM_readProperty? {ws : List (List Char)} {es : List (String × String)}
    (h : ws.mapM readProperty? = some es) {e : String × String} (he : e ∈ es) :
    ∃ w ∈ ws, readProperty? w = some e := by
  induction ws generalizing es with
  | nil =>
    obtain rfl : es = [] := by simpa using h.symm
    cases he
  | cons w ws ih =>
    rw [List.mapM_cons] at h
    obtain ⟨d, hd, h⟩ := Option.bind_eq_some_iff.mp h
    obtain ⟨ds, hds, h⟩ := Option.bind_eq_some_iff.mp h
    obtain rfl := Option.some.inj h
    rcases List.mem_cons.mp he with rfl | he
    · exact ⟨w, List.mem_cons_self, hd⟩
    · obtain ⟨v, hv, hread⟩ := ih hds he
      exact ⟨v, List.mem_cons_of_mem w hv, hread⟩

/-- Whether all properties of a message are read back as they are written. -/
def areWritable (p : Properties) : Bool := p.toList.all isWritable

theorem areWritable_iff {p : Properties} :
    areWritable p = true ↔ ∀ key value, p.find? key = some value → isWritable (key, value) = true := by
  unfold areWritable StringMap.toList StringMap.find?
  rw [List.all_eq_true]
  refine ⟨fun h key value hfind => h _ ?_, fun h e he => h e.1 e.2 ?_⟩
  · exact (lookup_eq_some_iff_mem p.nodup_keys).mp hfind
  · exact (lookup_eq_some_iff_mem p.nodup_keys).mpr he

theorem areWritable_insert {p : Properties} {key value : String} (h : areWritable p = true)
    (he : isWritable (key, value) = true) : areWritable (p.insert key value) = true := by
  refine areWritable_iff.mpr fun k v hfind => ?_
  rw [StringMap.find?_insert] at hfind
  split at hfind
  · next hk =>
    obtain rfl := Option.some.inj hfind
    exact hk ▸ he
  · exact areWritable_iff.mp h k v hfind

theorem areWritable_erase {p : Properties} (h : areWritable p = true) (key : String) :
    areWritable (p.erase key) = true := by
  refine areWritable_iff.mpr fun k v hfind => areWritable_iff.mp h k v ?_
  rw [StringMap.find?_erase] at hfind
  split at hfind
  · cases hfind
  · exact hfind

theorem areWritable_insertAll {es : List (String × String)} {p : Properties}
    (h : areWritable p = true) (hes : ∀ e ∈ es, isWritable e = true) :
    areWritable (p.insertAll es) = true := by
  induction es generalizing p with
  | nil => exact h
  | cons e es ih =>
    exact ih (areWritable_insert h (hes e List.mem_cons_self)) fun d hd => hes d (List.mem_cons_of_mem e hd)

theorem areWritable_of_readProperties? {ws : List (List Char)} {p : Properties}
    (hws : ∀ w ∈ ws, Text.IsRun w) (h : readProperties? ws = some p) : areWritable p = true := by
  obtain ⟨es, hes, rfl⟩ := Option.map_eq_some_iff.mp h
  refine areWritable_insertAll rfl fun e he => ?_
  obtain ⟨w, hw, hread⟩ := mem_of_mapM_readProperty? hes he
  exact isWritable_of_readProperty? (hws w hw) hread

theorem ofList_toList (p : Properties) : StringMap.ofList p.toList = p := by
  refine StringMap.ext_find? fun key => ?_
  show (StringMap.insertAll {} p.entries).find? key = p.find? key
  rw [StringMap.find?_insertAll p.nodup_keys]
  exact Option.or_none

theorem writeProperties_toList (p : Properties) :
    (writeProperties p).toList = Text.spaced (p.toList.map wordOf) := by
  unfold writeProperties Text.spaced
  rw [String.toList_join, List.flatMap_map, List.flatMap_map]
  refine congrArg (List.flatMap · p.toList) (funext fun e => ?_)
  simp [wordOf]

/-- Properties that can be written are read back. -/
theorem readProperties?_writeProperties {p : Properties} (h : areWritable p = true) :
    readProperties? (Text.words (writeProperties p).toList) = some p := by
  have hall : ∀ e ∈ p.toList, isWritable e = true := List.all_eq_true.mp h
  have hruns : ∀ w ∈ p.toList.map wordOf, Text.IsRun w := by
    intro w hw
    obtain ⟨e, he, rfl⟩ := List.mem_map.mp hw
    exact isRun_wordOf (hall e he)
  rw [writeProperties_toList, Text.words_spaced hruns, readProperties?, mapM_readProperty? hall,
    Option.map_some, ofList_toList]

/-! ## Quoted messages

A message may hold anything. Quoting takes out what would end the message or the line. -/

theorem unescape?_escapeChar (c : Char) (done rest : List Char) :
    unescape? done (escapeChar c ++ rest) = unescape? (c :: done) rest := by
  unfold escapeChar
  by_cases hquote : c = '"'
  · subst hquote
    simp [unescape?, unescapeChar]
  by_cases hback : c = '\\'
  · subst hback
    simp [unescape?, unescapeChar]
  by_cases hline : c = '\n'
  · subst hline
    simp [unescape?, unescapeChar]
  by_cases hreturn : c = '\r'
  · subst hreturn
    simp [unescape?, unescapeChar]
  -- Any other character stands for itself.
  simp only [hquote, hback, hline, hreturn, if_false, List.singleton_append]
  rw [unescape?]
  · exact hquote
  · exact fun h => absurd h hback
  · exact fun _ _ h => absurd h hback

theorem unescape?_escape (cs done rest : List Char) :
    unescape? done (escape cs ++ '"' :: rest) = some (done.reverse ++ cs, rest) := by
  induction cs generalizing done with
  | nil => simp [escape, unescape?]
  | cons c cs ih =>
    have hcons : escape (c :: cs) = escapeChar c ++ escape cs := rfl
    rw [hcons, List.append_assoc, unescape?_escapeChar, ih]
    simp

theorem newline_not_mem_escape (cs : List Char) : '\n' ∉ escape cs := by
  intro h
  obtain ⟨c, -, hc⟩ := List.mem_flatMap.mp h
  unfold escapeChar at hc
  split at hc
  · simp at hc
  · split at hc
    · simp at hc
    · split at hc
      · simp at hc
      · next hline =>
        split at hc
        · simp at hc
        · exact hline (List.mem_singleton.mp hc).symm

theorem newline_not_mem_spaced {ws : List (List Char)} (h : ∀ w ∈ ws, Text.IsRun w) :
    '\n' ∉ Text.spaced ws := by
  intro hmem
  obtain ⟨w, hw, hc⟩ := List.mem_flatMap.mp hmem
  rcases List.mem_cons.mp hc with hc | hc
  · cases hc
  · have hsep := (h w hw).2 _ hc
    cases hsep

end Wire

/-! ## Responses

A response can be written if its properties can, and then its line is read as that response. -/

namespace Response

/-- Whether a response is read back as it is written. -/
def isWritable (r : Response) : Bool := Wire.areWritable r.properties

theorem isWritable_set {r : Response} {key value : String} (h : r.isWritable = true)
    (he : Wire.isWritable (key, value) = true) : (r.set key value).isWritable = true :=
  Wire.areWritable_insert h he

theorem isWritable_erase {r : Response} (h : r.isWritable = true) (key : String) :
    (r.erase key).isWritable = true := Wire.areWritable_erase h key

theorem isWritable_of_parse? {line : String} {r : Response} (h : parse? line = some r) :
    r.isWritable = true := by
  unfold parse? at h
  obtain ⟨x, -, h⟩ := Option.bind_eq_some_iff.mp h
  obtain ⟨code, -, h⟩ := Option.bind_eq_some_iff.mp h
  obtain ⟨y, -, h⟩ := Option.bind_eq_some_iff.mp h
  obtain ⟨p, hp, h⟩ := Option.bind_eq_some_iff.mp h
  obtain rfl := Option.some.inj h
  exact Wire.areWritable_of_readProperties? (fun w hw => Text.isRun_of_mem_words hw) hp

theorem text_toList (r : Response) : r.text.toList =
    r.status.code.name.toList ++ ' ' :: '"' ::
      (Wire.escape r.status.message.toList ++ '"' :: (Wire.writeProperties r.properties).toList) := by
  simp [text]

/-- What is written to the client is the line. -/
theorem encode_eq (r : Response) : r.encode = Bytes.ofText r.toLine := by
  -- The line grows by one property at a time, in front of those that are still to come.
  have hadds : ∀ (es : List (String × String)) (line : String),
      es.foldl (fun line e => line ++ " " ++ e.1 ++ "=" ++ e.2) line =
        line ++ String.join (es.map fun e => " " ++ e.1 ++ "=" ++ e.2) := by
    intro es
    induction es with
    | nil =>
      intro line
      exact String.append_empty.symm
    | cons e es ih =>
      intro line
      rw [List.foldl_cons, ih, List.map_cons, String.join_cons]
      simp only [String.append_assoc]
  unfold encode StringMap.visit
  dsimp only
  rw [StringMap.visitEntries_eq_foldl fun _ _ _ => rfl, hadds]
  rfl

theorem ofName?_name (code : StatusCode) : StatusCode.ofName? code.name = some code := by
  cases code <;> decide +kernel

theorem name_starts (code : StatusCode) : ∃ c cs, code.name.toList = c :: cs ∧
    Text.isBlank c = false ∧ ' ' ∉ code.name.toList := by
  cases code <;> exact ⟨_, _, rfl, rfl, by decide⟩

/-- A response that can be written is read back from its line. -/
theorem parse?_text {r : Response} (h : r.isWritable = true) : parse? r.text = some r := by
  obtain ⟨c, cs, hname, hblank, hspace⟩ := name_starts r.status.code
  have htrim : Text.trimStart r.text.toList = r.text.toList := by
    rw [text_toList, hname]
    exact List.dropWhile_cons_of_neg (by simp [hblank])
  have hquoted : Text.trimStart ('"' :: (Wire.escape r.status.message.toList ++
      '"' :: (Wire.writeProperties r.properties).toList)) = '"' ::
      (Wire.escape r.status.message.toList ++ '"' :: (Wire.writeProperties r.properties).toList) :=
    List.dropWhile_cons_of_neg (by decide)
  unfold parse?
  rw [htrim, text_toList, Text.splitOnce?_append hspace]
  simp only [bind, Option.bind_some, String.ofList_toList, ofName?_name, hquoted, Wire.readQuoted?,
    Wire.unescape?_escape, List.reverse_nil, List.nil_append,
    Wire.readProperties?_writeProperties h]
  rfl

theorem newline_not_mem_text {r : Response} (h : r.isWritable = true) : '\n' ∉ r.text.toList := by
  have hname : '\n' ∉ r.status.code.name.toList := by
    cases r.status.code <;> decide
  have hproperties : '\n' ∉ (Wire.writeProperties r.properties).toList := by
    rw [Wire.writeProperties_toList]
    refine Wire.newline_not_mem_spaced fun w hw => ?_
    obtain ⟨e, he, rfl⟩ := List.mem_map.mp hw
    exact Wire.isRun_wordOf (List.all_eq_true.mp h e he)
  rw [text_toList]
  simp [hname, hproperties, Wire.newline_not_mem_escape]

/-- What is written to the client is the line, and the line without its end is read as the response
exactly if keys are words without an equals sign, and values are words. That is so for every
response that was read from a line. -/
theorem reads_own_line (r : Response) :
    r.encode = Bytes.ofText r.toLine ∧
    ∃ body, r.toLine = body ++ "\n" ∧
      (parse? body = some r ↔ ∀ key value, r.get? key = some value →
        key ≠ "" ∧ '=' ∉ key.toList ∧ (∀ c ∈ key.toList, Text.isSeparator c = false) ∧
          ∀ c ∈ value.toList, Text.isSeparator c = false) ∧
      ((∃ line, parse? line = some r) → parse? body = some r) := by
  refine ⟨encode_eq r, r.text, rfl, ⟨fun h key value hget => ?_, fun h => ?_⟩, ?_⟩
  · have hwritable := Wire.areWritable_iff.mp (isWritable_of_parse? h) key value hget
    obtain ⟨hne, hkey, heq, hvalue⟩ := Wire.isWritable_iff.mp hwritable
    exact ⟨hne, heq, Text.isWord_iff.mp hkey, Text.isWord_iff.mp hvalue⟩
  · refine parse?_text (Wire.areWritable_iff.mpr fun key value hfind => ?_)
    obtain ⟨hne, heq, hkey, hvalue⟩ := h key value hfind
    exact Wire.isWritable_iff.mpr ⟨hne, Text.isWord_iff.mpr hkey, heq, Text.isWord_iff.mpr hvalue⟩
  · rintro ⟨line, h⟩
    exact parse?_text (isWritable_of_parse? h)

-- A blank in a value divides it, and what is behind the blank is no property.
example : parse? { properties := .ofList [("k", "a b")] : Response }.text = none := by decide +kernel

end Response

/-! ## Requests

A request that was read can be written. -/

namespace Request

/-- Whether a request is read back from the line that a host gets. -/
structure Writable (r : Request) : Prop where
  service : Text.IsRun r.service.toList
  method : Text.IsRun r.method.toList
  properties : Wire.areWritable r.properties = true

theorem writable_of_parse? {line : String} {r : Request} (h : parse? line = some r) : r.Writable := by
  unfold parse? at h
  split at h
  · next service method rest hwords =>
    obtain ⟨p, hp, rfl⟩ := Option.map_eq_some_iff.mp h
    have hrun : ∀ w ∈ service :: method :: rest, Text.IsRun w := fun w hw =>
      Text.isRun_of_mem_words (hwords ▸ hw)
    refine ⟨?_, ?_, ?_⟩
    · simpa using hrun service List.mem_cons_self
    · simpa using hrun method (List.mem_cons_of_mem _ List.mem_cons_self)
    · refine Wire.areWritable_of_readProperties? (fun w hw => hrun w ?_) hp
      exact List.mem_cons_of_mem _ (List.mem_cons_of_mem _ hw)
  · cases h

/-- A request is read from its words. -/
theorem parse?_words {service method : List Char} {ws : List (List Char)}
    (hservice : Text.IsRun service) (hwords : ∀ w ∈ method :: ws, Text.IsRun w) :
    parse? (String.ofList (service ++ Text.spaced (method :: ws))) =
      (Wire.readProperties? ws).map fun properties =>
        { service := String.ofList service, method := String.ofList method, properties } := by
  have hspace : Text.spaced (method :: ws) = [] ∨
      ∃ c cs, Text.spaced (method :: ws) = c :: cs ∧ Text.isSeparator c = true :=
    Or.inr ⟨' ', _, rfl, rfl⟩
  have hline := Text.words_run hservice hspace
  rw [Text.words_spaced hwords] at hline
  unfold parse?
  rw [String.toList_ofList, hline]

end Request

/-! ## Numbers

A number is a word. -/

namespace Text

theorem isSeparator_of_isDigit {c : Char} (h : c.isDigit = true) : isSeparator c = false := by
  have hrange : 48 ≤ c.toNat ∧ c.toNat ≤ 57 := by
    unfold Char.isDigit at h
    obtain ⟨hlow, hhigh⟩ := (Bool.and_eq_true _ _).mp h
    exact ⟨UInt32.le_iff_toNat_le.mp (of_decide_eq_true hlow),
      UInt32.le_iff_toNat_le.mp (of_decide_eq_true hhigh)⟩
  simp only [isSeparator, Bool.or_eq_false_iff, beq_eq_false_iff_ne]
  omega

theorem isSeparator_repr {n : Nat} {c : Char} (h : c ∈ n.repr.toList) : isSeparator c = false := by
  rw [Nat.repr_eq_ofList_toDigits, String.toList_ofList] at h
  exact isSeparator_of_isDigit (Nat.isDigit_of_mem_toDigits (by decide) (by decide) h)

theorem isWord_toString (i : Int) : isWord (toString i) = true := by
  refine List.all_eq_true.mpr fun c hc => ?_
  have hnone : isSeparator c = false := by
    cases i with
    | ofNat n => exact isSeparator_repr hc
    | negSucc n =>
      have hneg : c = '-' ∨ c ∈ (n + 1).repr.toList := by
        have hrepr : toString (Int.negSucc n) = "-" ++ (n + 1).repr := rfl
        rw [hrepr, String.toList_append] at hc
        simpa using hc
      rcases hneg with rfl | hc
      · rfl
      · exact isSeparator_repr hc
  simp [hnone]

end Text

/-! ## Lines for hosts

The line that is sent to a host gives the call a number of its own. -/

namespace RequestLine

/-- The properties of the line for a host: the number of the message, and those that the client sent
under another name. -/
def numbered (l : RequestLine) (n : Int32) : List (String × String) :=
  (sequenceKey, toString n.toInt) :: l.properties.filter (·.1 != sequenceKey)

theorem text_toList (l : RequestLine) (n : Int32) : (l.text (some n)).toList =
    l.service.toList ++ Text.spaced (l.method.toList :: (l.numbered n).map Wire.wordOf) ++ ['\n'] := by
  have hone : ∀ e : String × String, (propertyText e).toList = ' ' :: Wire.wordOf e := by
    intro e
    simp [propertyText, Wire.wordOf]
  have hrest : ∀ es : List (String × String),
      (String.join (es.map propertyText)).toList = Text.spaced (es.map Wire.wordOf) := by
    intro es
    rw [String.toList_join, List.flatMap_map]
    simp only [hone, Text.spaced, List.flatMap_map]
  unfold text numbered
  simp only [String.toList_append, hrest, Option.map_some, Option.getD_some, List.map_cons]
  simp [Text.spaced, Wire.wordOf]

theorem numbered_writable {r : Request} (h : r.Writable) (n : Int32) :
    ∀ e ∈ (ofRequest r).numbered n, Wire.isWritable e = true := by
  intro e he
  rcases List.mem_cons.mp he with rfl | he
  · have hkey : sequenceKey ≠ "" ∧ Text.isWord sequenceKey = true ∧ '=' ∉ sequenceKey.toList := by
      decide
    exact Wire.isWritable_iff.mpr ⟨hkey.1, hkey.2.1, hkey.2.2, Text.isWord_toString _⟩
  · exact List.all_eq_true.mp h.properties e (List.mem_of_mem_filter he)

/-- The properties of the line are those of the request, with the number in its place. -/
theorem ofList_numbered (r : Request) (n : Int32) :
    StringMap.ofList ((ofRequest r).numbered n) =
      r.properties.insert sequenceKey (toString n.toInt) := by
  refine StringMap.ext_find? fun key => ?_
  have hfiltered : ((r.properties.toList.filter (·.1 != sequenceKey)).map Prod.fst).Nodup :=
    (List.filter_sublist.map Prod.fst).nodup r.properties.nodup_keys
  have hnodup : (((ofRequest r).numbered n).map Prod.fst).Nodup := by
    refine List.nodup_cons.mpr ⟨fun hmem => ?_, hfiltered⟩
    obtain ⟨e, he, hkey⟩ := List.mem_map.mp hmem
    have hne := (List.mem_filter.mp he).2
    simp [hkey] at hne
  rw [StringMap.find?_ofList hnodup, StringMap.find?_insert]
  unfold numbered
  rw [List.lookup_cons]
  by_cases hkey : key = sequenceKey
  · simp [hkey]
  · have hother : (key == sequenceKey) = false := by simpa using hkey
    rw [hother, if_neg hkey]
    refine Option.ext fun value => ?_
    show (r.properties.toList.filter (·.1 != sequenceKey)).lookup key = some value ↔
      r.properties.entries.lookup key = some value
    rw [lookup_eq_some_iff_mem hfiltered, lookup_eq_some_iff_mem r.properties.nodup_keys,
      List.mem_filter]
    exact ⟨fun hmem => hmem.1, fun hmem => ⟨hmem, by simpa using hkey⟩⟩

/-- The line that a host gets has one newline, at its end, and is read as the request with the
number of the message in place of whatever number the client sent. -/
theorem text_reads {r : Request} (h : r.Writable) (n : Int32) :
    ∃ body : String, (ofRequest r).text (some n) = body ++ "\n" ∧ '\n' ∉ body.toList ∧
      Request.parse? body = some (r.set sequenceKey (toString n.toInt)) := by
  have hwritable := numbered_writable h n
  have hruns : ∀ w ∈ r.method.toList :: ((ofRequest r).numbered n).map Wire.wordOf, Text.IsRun w := by
    intro w hw
    rcases List.mem_cons.mp hw with rfl | hw
    · exact h.method
    · obtain ⟨e, he, rfl⟩ := List.mem_map.mp hw
      exact Wire.isRun_wordOf (hwritable e he)
  refine ⟨String.ofList (r.service.toList ++
    Text.spaced (r.method.toList :: ((ofRequest r).numbered n).map Wire.wordOf)), ?_, ?_, ?_⟩
  · refine String.toList_inj.mp ?_
    rw [text_toList, String.toList_append, String.toList_ofList]
    rfl
  · rw [String.toList_ofList]
    intro hmem
    rcases List.mem_append.mp hmem with hmem | hmem
    · have hsep := h.service.2 _ hmem
      cases hsep
    · exact Wire.newline_not_mem_spaced hruns hmem
  · rw [Request.parse?_words h.service hruns, Wire.readProperties?, Wire.mapM_readProperty? hwritable,
      Option.map_some, Option.map_some, ofList_numbered, String.ofList_toList, String.ofList_toList]
    rfl

end RequestLine

/-! ## Octets

A text has a line end where its octets have one. -/

namespace Bytes

theorem ofText_eq (s : String) : ofText s = s.toList.flatMap String.utf8EncodeChar := by
  have hencode : s.toByteArray = s.toList.utf8Encode := by
    conv => lhs; rw [← String.ofList_toList (s := s)]
    exact String.toByteArray_ofList
  show s.toByteArray.data.toList = _
  rw [hencode]
  simp [List.utf8Encode]

theorem ofText_append (s t : String) : ofText (s ++ t) = ofText s ++ ofText t := by
  rw [ofText_eq, ofText_eq, ofText_eq, String.toList_append, List.flatMap_append]

theorem newline_ne {n : Nat} (h₁ : 128 ≤ n) (h₂ : n < 256) : newline ≠ UInt8.ofNat n := by
  intro h
  have hnat : 10 = n % 256 := by
    have h' := congrArg UInt8.toNat h
    rwa [UInt8.toNat_ofNat'] at h'
  omega

theorem newline_mem_utf8EncodeChar {c : Char} (h : newline ∈ String.utf8EncodeChar c) : c = '\n' := by
  unfold String.utf8EncodeChar at h
  dsimp only at h
  split at h
  · have hnat : 10 = c.val.toNat % 256 := by
      have h' := congrArg UInt8.toNat (List.mem_singleton.mp h)
      rwa [UInt8.toNat_ofNat'] at h'
    have hval : c.val.toNat = 10 := by omega
    exact Char.ext (UInt32.toNat_inj.mp hval)
  · -- All octets of a longer encoding are at least 128.
    exfalso
    split at h
    · simp only [List.mem_cons, List.not_mem_nil, or_false] at h
      rcases h with h | h <;> exact newline_ne (by omega) (by omega) h
    · split at h
      · simp only [List.mem_cons, List.not_mem_nil, or_false] at h
        rcases h with h | h | h <;> exact newline_ne (by omega) (by omega) h
      · simp only [List.mem_cons, List.not_mem_nil, or_false] at h
        rcases h with h | h | h | h <;> exact newline_ne (by omega) (by omega) h

/-- A newline in the octets of a text is one of the text. -/
theorem newline_mem_ofText {s : String} (h : newline ∈ ofText s) : '\n' ∈ s.toList := by
  rw [ofText_eq] at h
  obtain ⟨c, hc, hmem⟩ := List.mem_flatMap.mp h
  exact newline_mem_utf8EncodeChar hmem ▸ hc

end Bytes

end RpcProxy
