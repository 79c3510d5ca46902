import Mathlib.Data.List.Basic
import Mathlib.Data.List.TakeDrop
import MessageRelay.Url

/-!
# What is shown of a URL

A web address as people write it (`MessageRelay.Url.Spelling`) has a scheme, a host and perhaps a
port, and around them parts that may hold secrets: credentials in front of the host, and a path, a
query and a fragment behind it. This file shows that the reader sees none of these parts
(`MessageRelay.Url.Spelling.WellFormed.parse_trim`), so two addresses with the same scheme, host and
port are shown as the same text (`MessageRelay.Url.SameSite.redact_eq`).

Everything hangs on where the authority ends and where the credentials end. A slash, a question mark
or a number sign ends the authority, and the parts behind it start with one of them, which neither
trimming nor the removal of tabs and line ends takes away. The credentials end at the last `@`, and
the host has none. What trimming takes away at the end of the text lies behind the host, because the
host has no white space.
-/

namespace MessageRelay

namespace Url

/-! ### Spellings -/

/-- A character that may stand in the written form of a host: no white space, no control character,
and none of the delimiters. -/
structure IsPlain (c : Char) : Prop where
  unbroken : Text.isBlank c = false
  printed : 0x20 ≤ c.toNat
  inside : endsAuthority true c = false
  ne_at : c ≠ '@'

instance (c : Char) : Decidable (IsPlain c) :=
  decidable_of_iff
    (Text.isBlank c = false ∧ 0x20 ≤ c.toNat ∧ endsAuthority true c = false ∧ c ≠ '@')
    ⟨fun ⟨hblank, hprinted, hinside, hat⟩ => ⟨hblank, hprinted, hinside, hat⟩,
      fun h => ⟨h.unbroken, h.printed, h.inside, h.ne_at⟩⟩

/-- A part that may be absent, with the mark in front of it. -/
def marked (mark : Char) (part : Option String) : List Char :=
  part.elim [] fun s => mark :: s.toList

/-- The parts of the text of a web address. -/
structure Spelling where
  scheme : String
  /-- What stands in front of the `@`. -/
  userinfo : Option String := none
  host : String
  /-- What stands behind the colon. -/
  port : Option String := none
  /-- What stands behind the first slash. -/
  path : Option String := none
  /-- What stands behind the question mark. -/
  query : Option String := none
  /-- What stands behind the number sign. -/
  fragment : Option String := none

namespace Spelling

variable (p q : Spelling)

/-- The credentials with their `@`. -/
def credentials : List Char :=
  p.userinfo.elim [] fun s => s.toList ++ ['@']

/-- The host and the port. -/
def site : List Char :=
  p.host.toList ++ marked ':' p.port

/-- What stands behind the authority. -/
def behind : List Char :=
  marked '/' p.path ++ (marked '?' p.query ++ marked '#' p.fragment)

/-- The text of the address. -/
def text : String :=
  String.ofList (p.scheme.toList ++ "://".toList ++ p.credentials ++ p.site ++ p.behind)

/-- **A spelling of a web address.** The scheme is one of the two, the credentials are any text
without delimiters other than `@`, the host is a text of plain characters, the port is a row of
digits, and what stands behind is any text. -/
structure WellFormed : Prop where
  scheme : p.scheme = "http" ∨ p.scheme = "https"
  userinfo : ∀ s ∈ p.userinfo, ∀ c ∈ s.toList, endsAuthority true c = false
  host_ne_empty : p.host ≠ ""
  host : ∀ c ∈ p.host.toList, IsPlain c
  port : ∀ s ∈ p.port, ∀ c ∈ s.toList, c.isDigit = true

/-- Two spellings lead to the same place: they differ at most in the parts that may hold secrets. -/
structure SameSite : Prop where
  scheme : p.scheme = q.scheme
  host : p.host = q.host
  port : p.port = q.port

end Spelling

/-- Two texts are spellings of web addresses that lead to the same place. -/
def SameSite (a b : String) : Prop :=
  ∃ p q : Spelling, p.WellFormed ∧ q.WellFormed ∧ p.text = a ∧ q.text = b ∧ p.SameSite q

/-! ### Taking away what stands at the end -/

/-- What is taken away at the end of a list does not reach beyond an element that stays. -/
theorem dropEnd_append {drop : Char → Bool} {front : List Char} (back : List Char)
    (hne : front ≠ []) (hlast : ∀ c ∈ front.getLast?, drop c = false) :
    ((front ++ back).reverse.dropWhile drop).reverse =
      front ++ (back.reverse.dropWhile drop).reverse := by
  have hfront : front.reverse.dropWhile drop = front.reverse := by
    cases hrev : front.reverse with
    | nil => exact absurd (List.reverse_eq_nil_iff.mp hrev) hne
    | cons c cs =>
      have hc : front.getLast? = some c := by rw [← List.head?_reverse, hrev]; rfl
      exact List.dropWhile_cons_of_neg (Bool.eq_false_iff.mp (hlast c hc))
  rw [List.reverse_append, List.dropWhile_append]
  split
  · next hempty =>
    rw [List.isEmpty_iff.mp hempty, hfront, List.reverse_reverse, List.reverse_nil,
      List.append_nil]
  · rw [List.reverse_append, List.reverse_reverse]

/-- What stays of the end of a list is a prefix of it. -/
theorem dropEnd_isInitial (drop : Char → Bool) (back : List Char) :
    (back.reverse.dropWhile drop).reverse <+: back := by
  have hsuffix := List.dropWhile_suffix (l := back.reverse) drop
  rw [← List.reverse_prefix, List.reverse_reverse] at hsuffix
  exact hsuffix

/-- Nothing is taken away in front of an element that stays. -/
theorem dropWhile_append_of_head {drop : Char → Bool} {front back : List Char}
    (hne : front ≠ []) (hhead : ∀ c ∈ front.head?, drop c = false) :
    (front ++ back).dropWhile drop = front ++ back := by
  cases front with
  | nil => exact absurd rfl hne
  | cons c cs => exact List.dropWhile_cons_of_neg (Bool.eq_false_iff.mp (hhead c rfl))

/-- Whether a character is none of those that are removed everywhere. -/
def isKept (c : Char) : Bool :=
  !(c == '\t' || c == '\n' || c == '\r')

/-! ### Plain characters -/

theorem IsPlain.not_le_space {c : Char} (h : IsPlain c) : decide (c ≤ ' ') = false := by
  refine decide_eq_false fun hle => ?_
  have htoNat : c.toNat = 0x20 := Nat.le_antisymm hle h.printed
  have hblank := h.unbroken
  rw [Text.isBlank, htoNat] at hblank
  exact absurd hblank (by decide)

theorem isKept_of_le {c : Char} (h : 0x20 ≤ c.toNat) : isKept c = true := by
  have hne : c ≠ '\t' ∧ c ≠ '\n' ∧ c ≠ '\r' := by
    refine ⟨?_, ?_, ?_⟩ <;>
      · rintro rfl
        exact absurd h (by decide)
  simp [isKept, hne]

theorem isPlain_colon : IsPlain ':' :=
  ⟨by decide, by decide, by decide, by decide⟩

theorem isPlain_of_isDigit {c : Char} (h : c.isDigit = true) : IsPlain c := by
  obtain ⟨hge, hle⟩ : 48 ≤ c.toNat ∧ c.toNat ≤ 57 := Char.isDigit_iff_toNat.mp h
  have hne : ∀ d : Char, d.toNat < 48 ∨ 57 < d.toNat → c ≠ d := by
    rintro d hd rfl
    omega
  refine ⟨?_, Nat.le_trans (by decide) hge, ?_, hne '@' (by decide)⟩
  · simp [Text.isBlank]
    omega
  · simp [endsAuthority, hne '/' (by decide), hne '?' (by decide), hne '#' (by decide),
      hne '\\' (by decide)]


/-! ### Where the authority ends -/

/-- What does not go on with the authority. -/
def StartsOutside (cs : List Char) : Prop :=
  ∀ c ∈ cs.head?, endsAuthority true c = true

theorem StartsOutside.of_initial {cs ds : List Char} (h : StartsOutside ds) (hinitial : cs <+: ds) :
    StartsOutside cs := by
  obtain ⟨rest, rfl⟩ := hinitial
  cases cs with
  | nil => exact nofun
  | cons c cs => exact h

/-- What ends the authority is not removed. -/
theorem StartsOutside.filter {cs : List Char} (h : StartsOutside cs) :
    StartsOutside (cs.filter isKept) := by
  cases cs with
  | nil => exact nofun
  | cons c cs =>
    have hends : endsAuthority true c = true := h c rfl
    have hkept : isKept c = true := by
      simp only [endsAuthority, Bool.true_and, Bool.or_eq_true, beq_iff_eq] at hends
      obtain ((rfl | rfl) | rfl) | rfl := hends <;> decide
    rw [List.filter_cons_of_pos hkept]
    exact h

theorem takeWhile_authority {authority rest : List Char}
    (hinside : ∀ c ∈ authority, endsAuthority true c = false) (hrest : StartsOutside rest) :
    (authority ++ rest).takeWhile (!endsAuthority true ·) = authority := by
  rw [List.takeWhile_append_of_pos fun c hc => by rw [hinside c hc]; rfl]
  cases rest with
  | nil => exact List.append_nil authority
  | cons c cs =>
    rw [List.takeWhile_cons_of_neg (by rw [hrest c rfl]; decide), List.append_nil]

/-! ### Where the credentials end -/

/-- Credentials with their `@`, or nothing. -/
def IsCredentials (cs : List Char) : Prop :=
  cs = [] ∨ ∃ user, cs = user ++ ['@'] ∧ ∀ c ∈ user, endsAuthority true c = false

theorem IsCredentials.inside {cs : List Char} (h : IsCredentials cs) :
    ∀ c ∈ cs, endsAuthority true c = false := by
  obtain rfl | ⟨user, rfl, huser⟩ := h
  · exact fun c hc => absurd hc List.not_mem_nil
  · intro c hc
    rcases List.mem_append.mp hc with hc | hc
    · exact huser c hc
    · rw [List.mem_singleton.mp hc]
      decide

theorem IsCredentials.filter {cs : List Char} (h : IsCredentials cs) :
    IsCredentials (cs.filter isKept) := by
  obtain rfl | ⟨user, rfl, huser⟩ := h
  · exact Or.inl rfl
  · refine Or.inr ⟨user.filter isKept, ?_, fun c hc => huser c ((List.mem_filter.mp hc).1)⟩
    rw [List.filter_append]
    rfl

/-- The credentials end at the last `@`. -/
theorem splitCredentials_snd {cs site : List Char} (hcs : IsCredentials cs)
    (hsite : ∀ c ∈ site, c ≠ '@') : (splitCredentials (cs ++ site)).2 = site := by
  have hall : ∀ c ∈ site.reverse, (c != '@') = true := fun c hc =>
    bne_iff_ne.mpr (hsite c (List.mem_reverse.mp hc))
  rw [splitCredentials, List.reverse_append, List.span_eq_takeWhile_dropWhile,
    List.takeWhile_append_of_pos hall, List.dropWhile_append_of_pos hall]
  obtain rfl | ⟨user, rfl, -⟩ := hcs
  · rfl
  · rw [List.reverse_append]
    show (site.reverse ++ []).reverse = site
    rw [List.append_nil, List.reverse_reverse]

/-- **Of what stands in front of the path only the host and the port are read.** -/
theorem readWeb_of_authority {scheme : List Char} {ownPort : Nat} {cs site rest : List Char}
    (hcs : IsCredentials cs) (hsite : ∀ c ∈ site, IsPlain c) (hrest : StartsOutside rest) :
    readWeb scheme ownPort (cs ++ site ++ rest) = readWeb scheme ownPort site := by
  have hinside : ∀ c ∈ cs ++ site, endsAuthority true c = false := by
    intro c hc
    rcases List.mem_append.mp hc with hc | hc
    · exact hcs.inside c hc
    · exact (hsite c hc).inside
  have hat : ∀ c ∈ site, c ≠ '@' := fun c hc => (hsite c hc).ne_at
  have hfull : (splitCredentials ((cs ++ site ++ rest).takeWhile (!endsAuthority true ·))).2 =
      site := by
    rw [takeWhile_authority hinside hrest, splitCredentials_snd hcs hat]
  have hbare : (splitCredentials (site.takeWhile (!endsAuthority true ·))).2 = site := by
    have halone : (site ++ []).takeWhile (!endsAuthority true ·) = site :=
      takeWhile_authority (fun c hc => (hsite c hc).inside) nofun
    rw [List.append_nil] at halone
    rw [halone]
    exact splitCredentials_snd (Or.inl rfl) hat
  simp only [readWeb, hfull, hbare]

/-! ### Reading a spelling -/

namespace Spelling

variable {p q : Spelling}

theorem WellFormed.isCredentials (h : p.WellFormed) : IsCredentials p.credentials := by
  rw [credentials]
  cases huser : p.userinfo with
  | none => exact Or.inl rfl
  | some s => exact Or.inr ⟨s.toList, rfl, h.userinfo s huser⟩

theorem WellFormed.plain (h : p.WellFormed) : ∀ c ∈ p.site, IsPlain c := by
  intro c hc
  rcases List.mem_append.mp hc with hc | hc
  · exact h.host c hc
  · cases hport : p.port with
    | none =>
      rw [marked, hport] at hc
      exact absurd hc List.not_mem_nil
    | some s =>
      rw [marked, hport] at hc
      rcases List.mem_cons.mp hc with rfl | hc
      · exact isPlain_colon
      · exact isPlain_of_isDigit (h.port s hport c hc)

theorem WellFormed.site_ne_nil (h : p.WellFormed) : p.site ≠ [] := fun hnil =>
  h.host_ne_empty (String.toList_eq_nil_iff.mp (List.append_eq_nil_iff.mp hnil).1)

theorem startsOutside_behind (p : Spelling) : StartsOutside p.behind := by
  intro c hc
  simp only [behind, marked] at hc
  cases hpath : p.path <;> cases hquery : p.query <;> cases hfragment : p.fragment <;>
    simp [hpath, hquery, hfragment] at hc <;> subst hc <;> decide

/-- What trimming and cleaning leave of a spelling: the scheme, the host and the port as they are,
and around them credentials and something behind the authority. -/
theorem WellFormed.exists_clean (h : p.WellFormed) :
    ∃ cs rest, clean (Text.trim p.text).toList =
        p.scheme.toList ++ ':' :: '/' :: '/' :: (cs ++ p.site ++ rest) ∧
      IsCredentials cs ∧ StartsOutside rest := by
  -- the address starts with a letter and goes on to the end of the host and the port
  let front := p.scheme.toList ++ "://".toList ++ p.credentials ++ p.site
  have hne : front ≠ [] := fun hnil => h.site_ne_nil (List.append_eq_nil_iff.mp hnil).2
  have hhead : ∀ c ∈ front.head?, c = 'h' := by
    intro c hc
    rcases h.scheme with hscheme | hscheme
    · simp only [front, hscheme] at hc
      exact (Option.some.inj hc).symm
    · simp only [front, hscheme] at hc
      exact (Option.some.inj hc).symm
  have hlast : ∀ c ∈ front.getLast?, IsPlain c := by
    intro c hc
    rw [List.getLast?_append_of_ne_nil _ h.site_ne_nil] at hc
    exact h.plain c (List.mem_of_mem_getLast? hc)
  -- so only what stands behind is cut
  have htrim : ∀ (drop : Char → Bool) (rest : List Char), drop 'h' = false →
      (∀ c, IsPlain c → drop c = false) →
      (((front ++ rest).dropWhile drop).reverse.dropWhile drop).reverse =
        front ++ (rest.reverse.dropWhile drop).reverse := by
    intro drop rest hletter hplain
    rw [dropWhile_append_of_head hne fun c hc => by rw [hhead c hc, hletter],
      dropEnd_append rest hne fun c hc => hplain c (hlast c hc)]
  have hscheme : p.scheme.toList.filter isKept = p.scheme.toList := by
    rcases h.scheme with hscheme | hscheme <;> rw [hscheme] <;> decide
  have hsite : p.site.filter isKept = p.site :=
    List.filter_eq_self.mpr fun c hc => isKept_of_le (h.plain c hc).printed
  have htext : p.text.toList = front ++ p.behind := String.toList_ofList
  refine ⟨p.credentials.filter isKept,
    (((p.behind.reverse.dropWhile Text.isBlank).reverse).reverse.dropWhile
      (· ≤ ' ')).reverse.filter isKept, ?_, h.isCredentials.filter, ?_⟩
  · rw [Text.trim, String.toList_ofList, Text.trimChars, htext,
      htrim Text.isBlank _ (by decide) fun c hc => hc.unbroken, clean,
      htrim _ _ (by decide) fun c hc => hc.not_le_space]
    show (front ++ _).filter isKept = _
    simp only [front, List.filter_append, hscheme, hsite, List.append_assoc]
    rfl
  · have hends := dropEnd_isInitial (· ≤ ' ') (p.behind.reverse.dropWhile Text.isBlank).reverse
    have hinitial := hends.trans (dropEnd_isInitial Text.isBlank p.behind)
    exact ((startsOutside_behind p).of_initial hinitial).filter

/-- The first slashes behind the scheme are all that are skipped. -/
theorem WellFormed.dropWhile_isSlash (h : p.WellFormed) {cs : List Char} (hcs : IsCredentials cs)
    (rest : List Char) :
    ('/' :: '/' :: (cs ++ p.site ++ rest)).dropWhile isSlash = cs ++ p.site ++ rest := by
  rw [List.dropWhile_cons_of_pos (by decide), List.dropWhile_cons_of_pos (by decide)]
  refine dropWhile_append_of_head (fun hnil => h.site_ne_nil (List.append_eq_nil_iff.mp hnil).2) ?_
  intro c hc
  have hinside : endsAuthority true c = false := by
    rcases List.mem_append.mp (List.mem_of_mem_head? hc) with hc | hc
    · exact hcs.inside c hc
    · exact (h.plain c hc).inside
  simp only [endsAuthority, Bool.true_and, Bool.or_eq_false_iff] at hinside
  rw [isSlash, hinside.1.1.1, hinside.2]
  rfl

/-- **An address is read as its scheme, its host and its port**, whatever stands around them. -/
theorem WellFormed.parse_trim (h : p.WellFormed) :
    parse (Text.trim p.text) =
      match SchemeKind.of p.scheme.toList with
      | .web ownPort => readWeb p.scheme.toList ownPort p.site
      | _ => .error .relative := by
  obtain ⟨cs, rest, hclean, hcs, hrest⟩ := h.exists_clean
  have hread : ∀ scheme ownPort,
      readWeb scheme ownPort (cs ++ p.site ++ rest) = readWeb scheme ownPort p.site :=
    fun _ _ => readWeb_of_authority hcs h.plain hrest
  rcases h.scheme with hscheme | hscheme
  · rw [hscheme] at hclean ⊢
    show parse (Text.trim p.text) = readWeb "http".toList 80 p.site
    rw [parse, hclean, ← hread]
    exact congrArg (readWeb "http".toList 80) (h.dropWhile_isSlash hcs rest)
  · rw [hscheme] at hclean ⊢
    show parse (Text.trim p.text) = readWeb "https".toList 443 p.site
    rw [parse, hclean, ← hread]
    exact congrArg (readWeb "https".toList 443) (h.dropWhile_isSlash hcs rest)

end Spelling

/-- **Two addresses with the same scheme, host and port are shown alike.** -/
theorem SameSite.redact_eq {a b : String} (h : SameSite a b) : redact a = redact b := by
  obtain ⟨p, q, hp, hq, rfl, rfl, h⟩ := h
  have hsite : p.site = q.site := by rw [Spelling.site, Spelling.site, h.host, h.port]
  rw [redact, redact, hp.parse_trim, hq.parse_trim, h.scheme, hsite]

end Url

end MessageRelay
