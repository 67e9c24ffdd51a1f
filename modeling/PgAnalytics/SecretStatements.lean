import Mathlib.Data.Bool.AllAny
import PgAnalytics.ClauseLists
import PgAnalytics.ForeignTables
import PgAnalytics.StringLiterals

/-! The `CREATE SECRET` statement of a user mapping: one clause for each option
that is set, its value put in as it is or between single quotes, unescaped. -/

namespace PgAnalytics.SecretStatements
open Basics ClauseLists Commands DuckdbCatalog StringLiterals

def defaultSecret : String := "default_secret"

structure SecretOption where
  name : String
  keyword : String
  quoted : Bool
  deriving DecidableEq, Repr

namespace SecretOption

def value (p : SecretOption) (option : String) : Value :=
  if p.quoted then .quoted option.toList else .given option.toList

def format (p : SecretOption) (option : String) : String :=
  if p.quoted then p.keyword ++ " '" ++ option ++ "'" else p.keyword ++ " " ++ option

end SecretOption

def secretType : SecretOption := ⟨"type", "TYPE", false⟩

/-- The options after the type, in the order of the clauses. -/
def secretOptions : List SecretOption :=
  [⟨"provider", "PROVIDER", false⟩, ⟨"scope", "SCOPE", false⟩, ⟨"chain", "CHAIN", true⟩,
    ⟨"key_id", "KEY_ID", true⟩, ⟨"secret", "SECRET", true⟩, ⟨"region", "REGION", true⟩,
    ⟨"session_token", "SESSION_TOKEN", true⟩, ⟨"endpoint", "ENDPOINT", true⟩,
    ⟨"url_style", "URL_STYLE", true⟩, ⟨"use_ssl", "USE_SSL", false⟩,
    ⟨"url_compatibility_mode", "URL_COMPATIBILITY_MODE", false⟩,
    ⟨"account_id", "ACCOUNT_ID", true⟩, ⟨"connection_string", "CONNECTION_STRING", true⟩,
    ⟨"account_name", "ACCOUNT_NAME", true⟩, ⟨"tenant_id", "TENANT_ID", true⟩,
    ⟨"client_id", "CLIENT_ID", true⟩, ⟨"client_secret", "CLIENT_SECRET", true⟩,
    ⟨"client_certificate_path", "CLIENT_CERTIFICATE_PATH", true⟩,
    ⟨"http_proxy", "HTTP_PROXY", true⟩, ⟨"proxy_user_name", "PROXY_USER_NAME", true⟩,
    ⟨"proxy_password", "PROXY_PASSWORD", true⟩]

def createSecret (secretName : String) (userMappingOptions : Options) : Except Fault String :=
  if userMappingOptions.isEmpty then
    .error (.error "create_secret requires user mapping options")
  else
    match userMappingOptions.lookup secretType.name with
    | none => .error (.error "type option required for USER MAPPING")
    | some type =>
      let clauses := secretType.format type :: secretOptions.filterMap fun p =>
        (userMappingOptions.lookup p.name).map p.format
      .ok ("CREATE OR REPLACE SECRET " ++ secretName ++ " (" ++ ", ".intercalate clauses ++ ")")

theorem createSecret_execute {κ : Type} [DecidableEq κ] {fold : String → κ} (engine : Engine)
    (userMapping : Options) :
    (ForeignTables.createSecret engine userMapping : Command (Duckdb fold) Fault Unit) =
      match createSecret defaultSecret userMapping with
      | .error fault => throw fault
      | .ok _ => execute engine (.createOrReplaceSecret userMapping) := by
  unfold ForeignTables.createSecret createSecret
  split
  · rfl
  · rw [show secretType.name = "type" from rfl]
    cases userMapping.lookup "type" <;> rfl

/-- Clauses end at a comma outside brackets; a literal is never punctuation. -/
def punctuation : Marks Token where
  mark
    | .char c => charMark c
    | .literal _ => .plain
  comma := .char ','
  mark_eq_comma {t} := by
    cases t with
    | literal content => simp
    | char c => exact charMark_eq_comma.trans (by rw [Token.char.injEq])

/-- Each option that is set after the type, with what opens its clause. -/
def setEntry (userMappingOptions : Options) (p : SecretOption) : Option (String × Value) :=
  (userMappingOptions.lookup p.name).map fun option => (" " ++ p.keyword ++ " ", p.value option)

def entries (userMappingOptions : Options) (type : String) : List (String × Value) :=
  (secretType.keyword ++ " ", secretType.value type) ::
    secretOptions.filterMap (setEntry userMappingOptions)

def clause (entry : String × Value) : Option (List Token) :=
  entry.2.meant.map (chars entry.1.toList ++ ·)

def opening : String := "CREATE OR REPLACE SECRET " ++ defaultSecret ++ " ("

/-- The statement has one clause for each option that is set, with its keyword and
its value, and no other. -/
def ReadAsGiven (userMappingOptions : Options) : Prop :=
  ∃ (type text : String) (inner : List Token) (clauses : List (List Token)),
    userMappingOptions.lookup secretType.name = some type ∧
    createSecret defaultSecret userMappingOptions = .ok text ∧
    literals.lex text.toList = some (chars opening.toList ++ inner ++ chars [')']) ∧
    (entries userMappingOptions type).map clause = clauses.map some ∧
    punctuation.clauses inner = some clauses

/-- A value between quotes has no quote, and one that is put in as it is is one clause. -/
def SecretOption.Fits (p : SecretOption) (option : String) : Prop :=
  if p.quoted then '\'' ∉ option.toList
  else (literals.lex option.toList).any punctuation.whole

def template (userMappingOptions : Options) (type : String) : Template where
  slots :=
    ((opening ++ secretType.keyword ++ " ").toList, secretType.value type) ::
    (secretOptions.filterMap (setEntry userMappingOptions)).map fun entry =>
      (',' :: entry.1.toList, entry.2)
  last := ")".toList

theorem render_value (p : SecretOption) (option : String) :
    (p.format option).toList = p.keyword.toList ++ (" ".toList ++ (p.value option).render) := by
  unfold SecretOption.value SecretOption.format
  split
  · simp [Value.render, quote, String.toList_append]
  · simp only [String.toList_append, List.append_assoc, Value.render_given]

theorem createSecret_eq {userMappingOptions : Options} {type : String}
    (present : userMappingOptions.lookup secretType.name = some type) :
    ∃ text, createSecret defaultSecret userMappingOptions = .ok text ∧
      text.toList = (template userMappingOptions type).render := by
  have nonempty : userMappingOptions.isEmpty = false := by
    cases userMappingOptions with
    | nil => cases present
    | cons entry rest => rfl
  have later : Template.renderFrom ")".toList (secretOptions.filterMap fun p =>
        (setEntry userMappingOptions p).map fun entry => (',' :: entry.1.toList, entry.2)) =
      (secretOptions.filterMap fun p =>
        ((userMappingOptions.lookup p.name).map p.format).map String.toList).flatMap
          (", ".toList ++ ·) ++ ")".toList := by
    refine Template.renderFrom_filterMap (fun p => ?_) secretOptions
    cases present : userMappingOptions.lookup p.name with
    | none => simp [setEntry, present]
    | some option => simp [setEntry, present, render_value, String.toList_append]
  refine ⟨_, by rw [createSecret, nonempty, if_neg Bool.false_ne_true, present], ?_⟩
  rw [Template.render, template, Template.renderFrom, List.map_filterMap, later]
  unfold opening
  simp only [String.toList_append, String.toList_intercalate, List.map_cons, intercalate_cons,
    List.append_assoc, render_value, List.map_filterMap]

theorem separated (userMappingOptions : Options) (type : String) :
    (template userMappingOptions type).Separated := by
  refine ⟨?_, show Template.Fixed ")".toList by decide⟩
  refine List.forall_mem_cons.mpr
    ⟨show Template.Fixed (opening ++ secretType.keyword ++ " ").toList by decide,
      fun slot mem => ?_⟩
  obtain ⟨entry, listed, rfl⟩ := List.mem_map.mp mem
  obtain ⟨p, known, present⟩ := List.mem_filterMap.mp listed
  obtain ⟨option, -, rfl⟩ := Option.map_eq_some_iff.mp present
  have plain : ∀ p ∈ secretOptions, '\'' ∉ p.keyword.toList := by decide
  simpa [Template.Fixed, String.toList_append] using plain p known

theorem meantFrom_entries {later : List (String × Value)} {tokens : List Token} :
    Template.meantFrom ")".toList (later.map fun entry => (',' :: entry.1.toList, entry.2)) =
        some tokens ↔
      ∃ clauses : List (List Token), later.map clause = clauses.map some ∧
        tokens = clauses.flatMap ([.char ','] ++ ·) ++ chars [')'] := by
  induction later generalizing tokens with
  | nil =>
    constructor
    · intro h
      cases h
      exact ⟨[], rfl, rfl⟩
    · rintro ⟨clauses, none', rfl⟩
      obtain rfl := List.map_eq_nil_iff.mp none'.symm
      rfl
  | cons entry later ih =>
    simp only [List.map_cons, Template.meantFrom, Option.bind_eq_some_iff,
      Option.map_eq_some_iff]
    constructor
    · rintro ⟨value, meant, rest, others, rfl⟩
      obtain ⟨clauses, each, rfl⟩ := ih.mp others
      refine ⟨(chars entry.1.toList ++ value) :: clauses, ?_, ?_⟩
      · rw [List.map_cons, each, clause, meant, Option.map_some]
      · simp [chars]
    · rintro ⟨clauses, each, rfl⟩
      cases clauses with
      | nil => cases each
      | cons first clauses =>
        obtain ⟨here, there⟩ := List.cons.inj each
        obtain ⟨value, meant, rfl⟩ := Option.map_eq_some_iff.mp here
        exact ⟨value, meant, _, ih.mpr ⟨clauses, there, rfl⟩, by simp [chars]⟩

theorem meant_template {userMappingOptions : Options} {type : String} {tokens : List Token} :
    (template userMappingOptions type).meant = some tokens ↔
      ∃ clauses : List (List Token),
        (entries userMappingOptions type).map clause = clauses.map some ∧
        tokens = chars opening.toList ++ [Token.char ','].intercalate clauses ++ chars [')'] := by
  rw [Template.meant, template, Template.meantFrom]
  simp only [Option.bind_eq_some_iff, Option.map_eq_some_iff, meantFrom_entries, entries,
    List.map_cons]
  constructor
  · rintro ⟨value, meant, _, ⟨clauses, each, rfl⟩, rfl⟩
    refine ⟨(chars (secretType.keyword ++ " ").toList ++ value) :: clauses, ?_, ?_⟩
    · rw [List.map_cons, each, clause, meant, Option.map_some]
    · rw [intercalate_cons]
      simp only [chars, String.toList_append, List.map_append, List.append_assoc]
  · rintro ⟨clauses, each, rfl⟩
    cases clauses with
    | nil => cases each
    | cons first clauses =>
      obtain ⟨here, there⟩ := List.cons.inj each
      obtain ⟨value, meant, rfl⟩ := Option.map_eq_some_iff.mp here
      refine ⟨value, meant, _, ⟨clauses, there, rfl⟩, ?_⟩
      rw [intercalate_cons]
      simp only [chars, String.toList_append, List.map_append, List.append_assoc]

theorem whole_chars {text : List Char} (plain : ∀ c ∈ text, charMark c = .plain)
    (tokens : List Token) :
    punctuation.whole (chars text ++ tokens) = punctuation.whole tokens := by
  refine Marks.wholeFrom_plain (fun t mem => ?_) 0 tokens
  obtain ⟨c, inside, rfl⟩ := List.mem_map.mp mem
  exact plain c inside

theorem SecretOption.fits_iff {p : SecretOption} {option : String} :
    p.Fits option ↔ (p.value option).Contained ∧
      ∀ tokens, (p.value option).meant = some tokens → punctuation.whole tokens := by
  unfold Fits value
  split
  · refine (and_iff_left fun tokens meant => ?_).symm
    cases meant
    rfl
  · rw [Option.any_eq_true, Value.Contained, Option.isSome_iff_exists]
    constructor
    · rintro ⟨tokens, read, whole⟩
      refine ⟨⟨tokens, read⟩, fun tokens' meant => ?_⟩
      cases read.symm.trans meant
      exact whole
    · rintro ⟨⟨tokens, read⟩, whole⟩
      exact ⟨tokens, read, whole tokens read⟩

theorem forall_entries {userMappingOptions : Options} {type : String}
    (present : userMappingOptions.lookup secretType.name = some type) {P : Value → Prop} :
    (∀ entry ∈ entries userMappingOptions type, P entry.2) ↔
      ∀ p ∈ secretType :: secretOptions, ∀ option, userMappingOptions.lookup p.name = some option →
        P (p.value option) := by
  simp only [entries, List.forall_mem_cons, List.mem_filterMap, setEntry, Option.map_eq_some_iff,
    present, Option.some.injEq, forall_eq']
  refine and_congr_right fun _ => ⟨fun all p listed option set => ?_, ?_⟩
  · exact all _ ⟨p, listed, option, set, rfl⟩
  · rintro all _ ⟨p, listed, option, set, rfl⟩
    exact all p listed option set

theorem whole_clauses {userMappingOptions : Options} {type : String}
    {clauses : List (List Token)}
    (each : (entries userMappingOptions type).map clause = clauses.map some) :
    (∀ clause ∈ clauses, punctuation.whole clause) ↔
      ∀ entry ∈ entries userMappingOptions type, ∀ tokens, entry.2.meant = some tokens →
        punctuation.whole tokens := by
  have opens : ∀ entry ∈ entries userMappingOptions type, ∀ c ∈ entry.1.toList,
      charMark c = .plain := by
    refine List.forall_mem_cons.mpr
      ⟨show ∀ c ∈ (secretType.keyword ++ " ").toList, charMark c = .plain from
        List.all_iff_forall_prop.mp (by decide), fun entry mem => ?_⟩
    obtain ⟨p, known, set⟩ := List.mem_filterMap.mp mem
    obtain ⟨option, -, rfl⟩ := Option.map_eq_some_iff.mp set
    have plain : ∀ p ∈ secretOptions,
        (" " ++ p.keyword ++ " ").toList.all fun c => charMark c = .plain := by decide
    exact List.all_iff_forall_prop.mp (plain p known)
  constructor
  · intro whole entry mem tokens meant
    have there : clause entry ∈ clauses.map some := each ▸ List.mem_map_of_mem mem
    obtain ⟨found, inside, same⟩ := List.mem_map.mp there
    rw [clause, meant, Option.map_some, Option.some.injEq] at same
    rw [← whole_chars (opens entry mem), ← same]
    exact whole found inside
  · intro whole found inside
    have there : some found ∈ (entries userMappingOptions type).map clause :=
      each ▸ List.mem_map_of_mem inside
    obtain ⟨entry, mem, same⟩ := List.mem_map.mp there
    obtain ⟨tokens, meant, rfl⟩ := Option.map_eq_some_iff.mp same
    rw [whole_chars (opens entry mem)]
    exact whole entry mem tokens meant

theorem readAsMeant_iff {userMappingOptions : Options} {type : String} :
    (template userMappingOptions type).ReadAsMeant ↔
      ∀ entry ∈ entries userMappingOptions type, entry.2.Contained := by
  rw [Template.readAsMeant_iff (separated _ _), template, List.forall_mem_cons,
    List.forall_mem_map, entries, List.forall_mem_cons]

theorem ReadAsGiven.contained {userMappingOptions : Options} {type : String}
    (present : userMappingOptions.lookup secretType.name = some type)
    (h : ReadAsGiven userMappingOptions) :
    ∀ entry ∈ entries userMappingOptions type, entry.2.Contained ∧
      ∀ tokens, entry.2.meant = some tokens → punctuation.whole tokens := by
  obtain ⟨type', text', inner, clauses, present', built', read, each, divided⟩ := h
  obtain ⟨text, built, rendered⟩ := createSecret_eq present
  cases present.symm.trans present'
  cases built.symm.trans built'
  obtain ⟨-, rfl, whole⟩ := Marks.clauses_eq_some_iff.mp divided
  have contained := readAsMeant_iff.mp ⟨_, meant_template.mpr ⟨clauses, each, rfl⟩, rendered ▸ read⟩
  exact fun entry mem => ⟨contained entry mem, (whole_clauses each).mp whole entry mem⟩

/-- Credentials are read as they are given exactly when no value between quotes has
a quote, and every other value is one clause. -/
theorem credentials_read_iff {userMappingOptions : Options}
    (typed : (userMappingOptions.lookup "type").isSome) :
    ReadAsGiven userMappingOptions ↔
      ∀ p ∈ secretType :: secretOptions, ∀ option,
        userMappingOptions.lookup p.name = some option → p.Fits option := by
  obtain ⟨type, present⟩ := Option.isSome_iff_exists.mp typed
  obtain ⟨text, built, rendered⟩ := createSecret_eq present
  have given : (∀ p ∈ secretType :: secretOptions, ∀ option,
      userMappingOptions.lookup p.name = some option → p.Fits option) ↔
      ∀ entry ∈ entries userMappingOptions type, entry.2.Contained ∧
        ∀ tokens, entry.2.meant = some tokens → punctuation.whole tokens := by
    simp only [SecretOption.fits_iff]
    exact (forall_entries (P := fun value => value.Contained ∧
      ∀ tokens, value.meant = some tokens → punctuation.whole tokens) present).symm
  rw [given]
  constructor
  · exact ReadAsGiven.contained present
  · intro fits
    obtain ⟨tokens, meant, read⟩ := readAsMeant_iff.mpr fun entry mem => (fits entry mem).1
    obtain ⟨clauses, each, rfl⟩ := meant_template.mp meant
    refine ⟨type, text, _, clauses, present, built, rendered ▸ read, each, ?_⟩
    refine Marks.clauses_eq_some_iff.mpr ⟨?_, rfl, ?_⟩
    · rintro rfl
      cases each
    · exact (whole_clauses each).mpr fun entry mem => (fits entry mem).2

def s3Credentials (secret : String) : Options :=
  [("type", "S3"), ("key_id", "trips"), ("secret", secret)]

theorem fits_s3Credentials {secret : String} (plain : '\'' ∉ secret.toList) :
    ∀ p ∈ secretType :: secretOptions, ∀ option,
      (s3Credentials secret).lookup p.name = some option → p.Fits option := by
  have quoted : ∀ p ∈ secretType :: secretOptions,
      (p.name = "type" → p.quoted = false) ∧ (p.name = "key_id" → p.quoted = true) ∧
        (p.name = "secret" → p.quoted = true) := by decide
  intro p known option present
  obtain ⟨type, key, value⟩ := quoted p known
  rw [s3Credentials, List.lookup_cons, List.lookup_cons, List.lookup_cons] at present
  unfold SecretOption.Fits
  by_cases first : p.name = "type"
  · obtain rfl : "S3" = option := by simpa [first] using present
    rw [type first, if_neg Bool.false_ne_true]
    decide
  · by_cases second : p.name = "key_id"
    · obtain rfl : "trips" = option := by simpa [second] using present
      rw [key second, if_pos rfl]
      decide
    · by_cases third : p.name = "secret"
      · obtain rfl : secret = option := by simpa [third] using present
        rwa [value third, if_pos rfl]
      · simp [beq_eq_false_iff_ne.mpr first, beq_eq_false_iff_ne.mpr second,
          beq_eq_false_iff_ne.mpr third] at present

theorem credentials_read_iff_s3 : ReadAsGiven (s3Credentials "a/b") :=
  (credentials_read_iff (by decide)).mpr (fits_s3Credentials (by decide))

theorem quoted_secret_not_read : ¬ ReadAsGiven (s3Credentials "a'b") := by
  intro read
  have secret : (" SECRET ", Value.quoted "a'b".toList) ∈ entries (s3Credentials "a'b") "S3" := by
    decide
  exact (read.contained (by decide) _ secret).1 (by decide)

end PgAnalytics.SecretStatements
