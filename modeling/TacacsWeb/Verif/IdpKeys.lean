import TacacsWeb.Model.IdpMetadata

/-!
# The service and the key that an import picks

The loop over the services picks the one that is asked for. The loop over the keys does as long as
the first certificate for signing is a text; otherwise it falls back to the first certificate at
all, which may be for encryption, or white space.
-/

namespace TacacsWeb.Verif

open TacacsWeb.Library TacacsWeb.Library.Text TacacsWeb.Model

/-! ## The statement -/

/-- The address of a service. -/
def serviceLocation (service : Element) : String := (service.attrib.get? "Location").getD ""

/-- The first service with a binding and an address. -/
def firstService (binding : String) (services : List Element) : Option (String × String) :=
  (services.find? fun service => decide (serviceLocation service ≠ "" ∧
    (service.attrib.get? "Binding").getD "" = binding)).map fun service =>
      (serviceLocation service, binding)

/-- The service that is asked for: the first for redirects, else the first for posts. -/
def askedSso (services : List Element) : Option (String × String) :=
  (firstService samlHttpRedirect services).or (firstService samlHttpPost services)

/-- The certificates of a key. -/
def keyTexts (key : Element) : List String :=
  (key.along certificatePath).map fun element => element.text.getD ""

/-- The first certificate with text of the keys that are for some use. -/
def firstCertificate (use : Option String) (keys : List Element) : Option String :=
  ((keys.filter fun key => decide (key.attrib.get? "use" = use)).flatMap keyTexts).find? fun text =>
    decide (¬IsBlank text)

/-- The certificate that is asked for: the first one for signing, else the first without a use. -/
def askedCertificate (keys : List Element) : Option String :=
  (firstCertificate (some "signing") keys).or (firstCertificate none keys)

/-- The import comes back with the service and the certificate that are asked for, and is refused
where one is missing. -/
def ImportsAsked (answer : Except MetadataFault IdpMetadata) (entityId : String)
    (idpSso : Element) : Prop :=
  match askedSso (idpSso.findall singleSignOnService),
      askedCertificate (idpSso.findall keyDescriptor) with
  | some sso, some certificate =>
    answer = .ok ⟨entityId, sso.1, sso.2, withoutSpace certificate⟩
  | _, _ => ∃ text, answer = .error (.invalid text)

/-- A document describes an identity provider. -/
structure DescribesIdp (root : Element) (entityId : String) (idpSso : Element) : Prop where
  /-- Its root is a descriptor of an entity. -/
  entity : endsWith "EntityDescriptor" root.tag = true
  /-- The entity has an id. -/
  identified : root.attrib.get? "entityID" = some entityId
  /-- The id is not empty. -/
  named : entityId ≠ ""
  /-- The entity has the descriptor of an identity provider. -/
  descriptor : root.find [idpSsoDescriptor] = some idpSso

/-- The text that is read first of the keys for signing. -/
def firstSigning (keys : List Element) : Option String :=
  ((certificates keys).find? fun certificate => certificate.1 = some "signing").map Prod.snd

/-- The text that is read first of all keys. -/
def firstRead (keys : List Element) : Option String := (certificates keys).head?.map Prod.snd

/-- The text that decides: the first one for signing, if it is more than white space, else the first
one at all. -/
def decidingText (keys : List Element) : Option String :=
  ((firstSigning keys).filter fun text => decide (¬IsBlank text)).or (firstRead keys)

/-- Some text is, but for white space, the certificate that is asked for. -/
def IsAsked (keys : List Element) (text : String) : Prop :=
  ∃ asked, askedCertificate keys = some asked ∧ withoutSpace text = withoutSpace asked

/-- The keys for some use have no certificate with text. -/
def NoneGiven (use : Option String) (keys : List Element) : Prop :=
  ∀ key ∈ keys, key.attrib.get? "use" = use → ∀ text ∈ keyTexts key, IsBlank text

/-- The keys for some use are overlooked without harm: none is read, as the first certificate of
each is missing or empty, and none has another one with text. -/
structure Overlooked (use : Option String) (before : List Element) : Prop where
  /-- None is read. -/
  unread : ∀ key ∈ before, key.attrib.get? "use" = use → certificateText key = none
  /-- None has a certificate with text behind an empty one. -/
  noneGiven : NoneGiven use before

/-- The keys of a document lead to the certificate that is asked for. -/
inductive KeysAgree (keys : List Element) : Prop where
  /-- The first key for signing that is read has a certificate that is more than white space, and no
  key for signing is passed over that has one, too. -/
  | signing {before after : List Element} {key : Element} {text : String}
      (split : keys = before ++ key :: after) (tagged : key.attrib.get? "use" = some "signing")
      (read : certificateText key = some text) (given : ¬IsBlank text)
      (passed : Overlooked (some "signing") before)
  /-- No key for signing has a certificate that is more than white space, and the first key that is
  read is one without a use whose certificate is. -/
  | untagged {before after : List Element} {key : Element} {text : String}
      (split : keys = before ++ key :: after) (tagged : key.attrib.get? "use" = none)
      (read : certificateText key = some text) (given : ¬IsBlank text)
      (first : ∀ other ∈ before, certificateText other = none) (passed : NoneGiven none before)
      (unsigned : NoneGiven (some "signing") keys)
  /-- No key is read, and neither the keys for signing nor those without a use have a certificate
  that is more than white space. -/
  | absent (unread : ∀ key ∈ keys, certificateText key = none)
      (unsigned : NoneGiven (some "signing") keys) (untagged : NoneGiven none keys)
  /-- The text that decides is another key's, and happens to be the one asked for. -/
  | repeated {text : String} (decides : decidingText keys = some text)
      (asked : IsAsked keys text)

/-! ## The services -/

/-- One iteration of the loop over the services. -/
theorem chooseSso_cons (service : Element) (services : List Element)
    (sso : Option (String × String)) :
    chooseSso (service :: services) sso =
      if serviceLocation service = "" then chooseSso services sso
      else if (service.attrib.get? "Binding").getD "" = samlHttpRedirect then
        some (serviceLocation service, (service.attrib.get? "Binding").getD "")
      else if sso = none ∧ (service.attrib.get? "Binding").getD "" = samlHttpPost then
        chooseSso services
          (some (serviceLocation service, (service.attrib.get? "Binding").getD ""))
      else chooseSso services sso := by
  rfl

/-- The loop over the services keeps a service for posts until one for redirects is found. -/
theorem chooseSso_eq (services : List Element) (sso : Option (String × String)) :
    chooseSso services sso =
      (firstService samlHttpRedirect services).or
        (sso.or (firstService samlHttpPost services)) := by
  induction services generalizing sso with
  | nil => cases sso <;> rfl
  | cons service services ih =>
    have next (binding : String)
        (other : ¬(serviceLocation service ≠ "" ∧
          (service.attrib.get? "Binding").getD "" = binding)) :
        firstService binding (service :: services) = firstService binding services := by
      unfold firstService
      rw [List.find?_cons_of_neg (by simpa using other)]
    have here (binding : String) (located : serviceLocation service ≠ "")
        (bound : (service.attrib.get? "Binding").getD "" = binding) :
        firstService binding (service :: services) = some (serviceLocation service, binding) := by
      unfold firstService
      rw [List.find?_cons_of_pos (by simpa using ⟨located, bound⟩)]
      rfl
    rw [chooseSso_cons]
    by_cases absent : serviceLocation service = ""
    · rw [if_pos absent, ih, next _ fun both => both.1 absent, next _ fun both => both.1 absent]
    · rw [if_neg absent]
      by_cases redirect : (service.attrib.get? "Binding").getD "" = samlHttpRedirect
      · rw [if_pos redirect, here _ absent redirect, redirect]
        rfl
      · rw [if_neg redirect, next samlHttpRedirect fun both => redirect both.2]
        by_cases post : (service.attrib.get? "Binding").getD "" = samlHttpPost
        · rw [here samlHttpPost absent post]
          cases sso with
          | none => rw [if_pos ⟨rfl, post⟩, ih, post]; rfl
          | some kept =>
            rw [if_neg fun both => Option.some_ne_none kept both.1, ih]
            rfl
        · rw [if_neg fun both => post both.2, ih, next samlHttpPost fun both => post both.2]

/-! ## The keys -/

/-- The loop over the keys ends with the text that decides. -/
theorem chosen_eq (keys : List Element) :
    (chooseCertificates keys none).certificate = (decidingText keys).map withoutSpace := by
  have signing : (chooseCertificates keys none).certificate =
      (((firstSigning keys).map withoutSpace).filter fun text => text ≠ "").or
        ((firstRead keys).map withoutSpace) := by
    rw [chooseCertificates_eq]
    unfold ChosenCertificates.certificate firstSigning firstRead
    simp only [Option.map_map, Option.none_or]
    rfl
  rw [signing, decidingText]
  cases firstSigning keys with
  | none => rfl
  | some text =>
    by_cases blank : IsBlank text
    · have empty := withoutSpace_eq_empty_iff.mpr blank
      rw [Option.map_some, empty, Option.filter_some_neg (by simp),
        Option.filter_some_neg (by simpa using blank), Option.none_or, Option.none_or]
    · have kept : withoutSpace text ≠ "" :=
        fun empty => blank (withoutSpace_eq_empty_iff.mp empty)
      rw [Option.map_some, Option.filter_some_pos (by simpa using kept),
        Option.filter_some_pos (by simpa using blank)]
      rfl

/-- The text that is read of a key is its first certificate, unless that is empty. -/
theorem certificateText_eq (key : Element) :
    certificateText key = (keyTexts key).head?.filter fun text => text ≠ "" := by
  unfold certificateText keyTexts Element.find
  rw [List.head?_map]
  cases (key.along certificatePath).head? with
  | none => rfl
  | some element =>
    rw [Option.bind_some, Option.map_some]
    cases element.text with
    | none => rfl
    | some text => rfl

/-- What is read of a key comes first among its certificates. -/
theorem keyTexts_of_read {key : Element} {text : String} (read : certificateText key = some text) :
    ∃ others, keyTexts key = text :: others := by
  rw [certificateText_eq] at read
  exact List.head?_eq_some_iff.mp (Option.filter_eq_some_iff.mp read).1

/-- Keys without a certificate with text have no first one. -/
theorem firstCertificate_eq_none {use : Option String} {keys : List Element} :
    firstCertificate use keys = none ↔ NoneGiven use keys := by
  unfold firstCertificate NoneGiven
  rw [List.find?_eq_none]
  simp only [List.mem_flatMap, List.mem_filter, decide_eq_true_eq, not_not]
  constructor
  · intro blank key listed tagged text within
    exact blank text ⟨key, ⟨listed, tagged⟩, within⟩
  · intro blank text within
    obtain ⟨key, ⟨listed, tagged⟩, within⟩ := within
    exact blank key listed tagged text within

/-- The first certificate with text is the one that is read of a key before which there is none. -/
theorem firstCertificate_split {use : Option String} {before after : List Element} {key : Element}
    {text : String} (tagged : key.attrib.get? "use" = use)
    (read : certificateText key = some text) (given : ¬IsBlank text)
    (passed : NoneGiven use before) :
    firstCertificate use (before ++ key :: after) = some text := by
  obtain ⟨others, texts⟩ := keyTexts_of_read read
  have skipped := firstCertificate_eq_none.mpr passed
  unfold firstCertificate at skipped ⊢
  rw [List.filter_append, List.flatMap_append, List.find?_append, skipped, Option.none_or,
    List.filter_cons_of_pos (by simpa using tagged), List.flatMap_cons, texts, List.cons_append,
    List.find?_cons_of_pos (by simpa using given)]

/-- The certificates of keys that are read one after the other. -/
theorem certificates_split {before after : List Element} {key : Element} {text : String}
    (read : certificateText key = some text) :
    certificates (before ++ key :: after) =
      certificates before ++ (key.attrib.get? "use", text) :: certificates after := by
  unfold certificates
  rw [List.filterMap_append, List.filterMap_cons_some (by rw [read]; rfl)]

/-- No text is read of keys none of which is read. -/
theorem certificates_eq_nil {keys : List Element} :
    certificates keys = [] ↔ ∀ key ∈ keys, certificateText key = none := by
  unfold certificates
  simp only [List.filterMap_eq_nil_iff, Option.map_eq_none_iff]

/-- The first text for signing is that of a key before which no key for signing is read. -/
theorem firstSigning_split {before after : List Element} {key : Element} {text : String}
    (tagged : key.attrib.get? "use" = some "signing") (read : certificateText key = some text)
    (unread : ∀ other ∈ before, other.attrib.get? "use" = some "signing" →
      certificateText other = none) :
    firstSigning (before ++ key :: after) = some text := by
  have skipped : (certificates before).find?
      (fun certificate => certificate.1 = some "signing") = none := by
    apply List.find?_eq_none.mpr
    intro certificate listed
    obtain ⟨other, within, found⟩ := List.mem_filterMap.mp listed
    obtain ⟨otherText, otherRead, same⟩ := Option.map_eq_some_iff.mp found
    intro signing
    have otherTagged : other.attrib.get? "use" = some "signing" := by
      rw [← same] at signing
      exact of_decide_eq_true signing
    rw [unread other within otherTagged] at otherRead
    cases otherRead
  unfold firstSigning
  rw [certificates_split read, List.find?_append, skipped, Option.none_or,
    List.find?_cons_of_pos (by simpa using tagged)]
  rfl

/-- Without a text for signing, the first text at all decides. -/
theorem decidingText_unsigned {keys : List Element} (unsigned : NoneGiven (some "signing") keys) :
    decidingText keys = firstRead keys := by
  have blank : (firstSigning keys).filter (fun text => decide (¬IsBlank text)) = none := by
    apply Option.filter_eq_none_iff.mpr
    intro text first
    obtain ⟨certificate, found, same⟩ := Option.map_eq_some_iff.mp first
    have tagged : certificate.1 = some "signing" := by simpa using List.find?_some found
    obtain ⟨key, listed, read⟩ := List.mem_filterMap.mp (List.mem_of_find?_eq_some found)
    obtain ⟨keyText, readText, pair⟩ := Option.map_eq_some_iff.mp read
    rw [← pair] at tagged same
    obtain ⟨others, texts⟩ := keyTexts_of_read readText
    have within : text ∈ keyTexts key := by
      rw [texts, ← same]
      exact List.mem_cons_self
    simpa using unsigned key listed tagged text within
  rw [decidingText, blank, Option.none_or]

/-- The loop over the keys ends with the certificate asked for exactly when the keys lead to it. -/
theorem chosen_asked_iff (keys : List Element) :
    (chooseCertificates keys none).certificate = (askedCertificate keys).map withoutSpace ↔
      KeysAgree keys := by
  rw [chosen_eq]
  constructor
  · intro same
    cases decides : decidingText keys with
    | some text =>
      rw [decides, eq_comm, Option.map_some, Option.map_eq_some_iff] at same
      obtain ⟨asked, found, cleaned⟩ := same
      exact .repeated decides ⟨asked, found, cleaned.symm⟩
    | none =>
      rw [decides, eq_comm, Option.map_none, Option.map_eq_none_iff, askedCertificate,
        Option.or_eq_none_iff] at same
      have unread := (Option.or_eq_none_iff.mp decides).2
      exact .absent (certificates_eq_nil.mp (List.head?_eq_none_iff.mp
        (Option.map_eq_none_iff.mp unread))) (firstCertificate_eq_none.mp same.1)
          (firstCertificate_eq_none.mp same.2)
  · intro agrees
    cases agrees with
    | signing split tagged read given passed =>
      rw [split, decidingText, firstSigning_split tagged read passed.unread, askedCertificate,
        firstCertificate_split tagged read given passed.noneGiven,
        Option.filter_some_pos (by simpa using given)]
      rfl
    | untagged split tagged read given first passed unsigned =>
      have none := certificates_eq_nil.mpr first
      rw [decidingText_unsigned unsigned, askedCertificate,
        firstCertificate_eq_none.mpr unsigned, Option.none_or, split,
        firstCertificate_split tagged read given passed, firstRead, certificates_split read, none]
      rfl
    | absent unread unsigned untagged =>
      rw [decidingText_unsigned unsigned, askedCertificate, firstCertificate_eq_none.mpr unsigned,
        firstCertificate_eq_none.mpr untagged, firstRead, certificates_eq_nil.mpr unread]
      rfl
    | repeated decides asked =>
      obtain ⟨certificate, found, same⟩ := asked
      rw [decides, found, Option.map_some, Option.map_some, same]

/-! ## The import -/

/-- The id of the entity is not taken for a missing one. -/
theorem DescribesIdp.entityId_kept {root idpSso : Element} {entityId : String}
    (described : DescribesIdp root entityId idpSso) :
    (root.attrib.get? "entityID").filter (fun entityId => entityId ≠ "") = some entityId := by
  rw [described.identified, Option.filter_some_pos (by simpa using described.named)]

/-- What is read from a document that describes an identity provider. -/
theorem readMetadata_described {root idpSso : Element} {entityId : String}
    (described : DescribesIdp root entityId idpSso) {sso : String × String}
    (service : askedSso (idpSso.findall singleSignOnService) = some sso) :
    (∀ certificate, (chooseCertificates (idpSso.findall keyDescriptor) none).certificate =
        some certificate → readMetadata root = .ok ⟨entityId, sso.1, sso.2, certificate⟩) ∧
      ((chooseCertificates (idpSso.findall keyDescriptor) none).certificate = none →
        ∃ text, readMetadata root = .error text) := by
  have chosen : chooseSso (idpSso.findall singleSignOnService) none = some sso := by
    rw [chooseSso_eq, Option.none_or]
    exact service
  unfold readMetadata
  simp only [described.entity, described.descriptor, described.entityId_kept, chosen]
  constructor
  · intro certificate found
    rw [found]
    rfl
  · intro missing
    rw [missing]
    exact ⟨_, rfl⟩

/-- A document without a service that is asked for is refused. -/
theorem readMetadata_unserved {root idpSso : Element} {entityId : String}
    (described : DescribesIdp root entityId idpSso)
    (unserved : askedSso (idpSso.findall singleSignOnService) = none) :
    ∃ text, readMetadata root = .error text := by
  have chosen : chooseSso (idpSso.findall singleSignOnService) none = none := by
    rw [chooseSso_eq, Option.none_or]
    exact unserved
  unfold readMetadata
  simp only [described.entity, described.descriptor, described.entityId_kept, chosen]
  exact ⟨_, rfl⟩

/-- The import of a document that describes an identity provider comes back with what is asked for
exactly when the keys lead to the certificate asked for, or no service is usable. -/
theorem importsAsked_iff {fromstring : String → Except XmlFault Element} {xml entityId : String}
    {root idpSso : Element} (parsed : fromstring xml = .ok root)
    (described : DescribesIdp root entityId idpSso) :
    ImportsAsked (parseIdpMetadata fromstring xml) entityId idpSso ↔
      askedSso (idpSso.findall singleSignOnService) = none ∨
        KeysAgree (idpSso.findall keyDescriptor) := by
  have answer : parseIdpMetadata fromstring xml = (readMetadata root).mapError .invalid := by
    simp only [parseIdpMetadata, parsed]
  rw [answer, ← chosen_asked_iff]
  unfold ImportsAsked
  cases service : askedSso (idpSso.findall singleSignOnService) with
  | none =>
    obtain ⟨text, refused⟩ := readMetadata_unserved described service
    rw [refused]
    exact ⟨fun _ => .inl rfl, fun _ => ⟨text, rfl⟩⟩
  | some sso =>
    obtain ⟨found, missing⟩ := readMetadata_described described service
    have unserved : ¬some sso = none := Option.some_ne_none sso
    rw [or_iff_right unserved]
    cases asked : askedCertificate (idpSso.findall keyDescriptor) with
    | none =>
      cases chosen : (chooseCertificates (idpSso.findall keyDescriptor) none).certificate with
      | none =>
        obtain ⟨text, refused⟩ := missing chosen
        rw [refused]
        exact ⟨fun _ => rfl, fun _ => ⟨text, rfl⟩⟩
      | some certificate =>
        rw [found certificate chosen]
        constructor
        · intro refused
          obtain ⟨text, same⟩ := refused
          cases same
        · intro same
          cases same
    | some certificate =>
      cases chosen : (chooseCertificates (idpSso.findall keyDescriptor) none).certificate with
      | none =>
        obtain ⟨text, refused⟩ := missing chosen
        rw [refused]
        constructor
        · intro same
          cases same
        · intro same
          cases same
      | some other =>
        rw [found other chosen]
        constructor
        · intro same
          cases same
          rfl
        · intro same
          have one : other = withoutSpace certificate := Option.some.inj same
          rw [one]
          rfl

/-! ## Two documents -/

/-- A key for a use with one certificate as a text. -/
def keyXml (key : String × String) : String :=
  "<KeyDescriptor use=\"" ++ key.1 ++ "\"><KeyInfo xmlns=\"http://www.w3.org/2000/09/xmldsig#\">" ++
    "<X509Data><X509Certificate>" ++ key.2 ++
    "</X509Certificate></X509Data></KeyInfo></KeyDescriptor>"

/-- The metadata of an identity provider with some keys and a service. -/
def documentXml (keys : List (String × String)) : String :=
  "<EntityDescriptor xmlns=\"urn:oasis:names:tc:SAML:2.0:metadata\" entityID=\"idp\">" ++
    "<IDPSSODescriptor>" ++ String.join (keys.map keyXml) ++ "<SingleSignOnService " ++
    "Binding=\"urn:oasis:names:tc:SAML:2.0:bindings:HTTP-Redirect\" " ++
    "Location=\"https://idp/sso\"/>" ++
    "</IDPSSODescriptor></EntityDescriptor>"

/-- The elements of a key. -/
def keyFor (key : String × String) : Element :=
  .node keyDescriptor (Dict.ofList [("use", key.1)]) none
    [.node (qualified xmldsigNs "KeyInfo") ∅ none
      [.node (qualified xmldsigNs "X509Data") ∅ none
        [.node (qualified xmldsigNs "X509Certificate") ∅ (some key.2) []]]]

/-- The descriptor of an identity provider with some keys and a service. -/
def idpWith (keys : List Element) : Element :=
  .node idpSsoDescriptor ∅ none (keys ++ [.node singleSignOnService
    (Dict.ofList [("Binding", samlHttpRedirect), ("Location", "https://idp/sso")]) none []])

/-- A document with that descriptor. -/
def documentWith (keys : List Element) : Element :=
  .node (qualified saml2MdNs "EntityDescriptor") (Dict.ofList [("entityID", "idp")]) none
    [idpWith keys]

/-- A parser that knows one document. -/
def parserOf (keys : List (String × String)) (xml : String) : Except XmlFault Element :=
  if xml = documentXml keys then .ok (documentWith (keys.map keyFor))
  else .error (.parseError "no element found: line 1, column 0")

/-- The parser of a document reads that document. -/
theorem parserOf_document (keys : List (String × String)) :
    parserOf keys (documentXml keys) = .ok (documentWith (keys.map keyFor)) :=
  if_pos rfl

/-- The keys of the descriptor. -/
theorem findall_idpWith {keys : List Element} (tagged : ∀ key ∈ keys, key.tag = keyDescriptor) :
    (idpWith keys).findall keyDescriptor = keys := by
  have other : ¬singleSignOnService = keyDescriptor := by decide
  unfold idpWith Element.findall Element.children
  rw [List.filter_append,
    List.filter_eq_self.mpr fun key listed => by simpa using tagged key listed]
  simp [Element.tag, other]

/-- The document describes its identity provider. -/
theorem documentWith_describes (keys : List Element) :
    DescribesIdp (documentWith keys) "idp" (idpWith keys) where
  entity := by
    show endsWith "EntityDescriptor" (qualified saml2MdNs "EntityDescriptor") = true
    decide
  identified := rfl
  named := by decide
  descriptor := by rfl

/-- A key for encryption before one for signing. -/
def bothKeys : List (String × String) := [("encryption", "MIIE"), ("signing", "MIIS")]

/-- The key for signing decides. -/
theorem bothKeys_agree : KeysAgree (bothKeys.map keyFor) := by
  have others : ∀ key ∈ [keyFor ("encryption", "MIIE")],
      key.attrib.get? "use" ≠ some "signing" := by
    decide
  have passed : Overlooked (some "signing") [keyFor ("encryption", "MIIE")] :=
    ⟨fun key listed tagged => absurd tagged (others key listed),
      fun key listed tagged => absurd tagged (others key listed)⟩
  exact .signing (show bothKeys.map keyFor = [keyFor ("encryption", "MIIE")] ++
    keyFor ("signing", "MIIS") :: [] from rfl) (by decide) (by rfl) (by decide) passed

/-- Behind a key for encryption, the key for signing is picked. -/
theorem importsAsked_signing :
    ImportsAsked (parseIdpMetadata (parserOf bothKeys) (documentXml bothKeys)) "idp"
      (idpWith (bothKeys.map keyFor)) :=
  (importsAsked_iff (parserOf_document bothKeys) (documentWith_describes _)).mpr
    (.inr (by
      rw [findall_idpWith (by decide)]
      exact bothKeys_agree))

/-- A key for encryption alone is picked as the key for signing. -/
theorem encryptionKey_picked :
    ¬∀ (fromstring : String → Except XmlFault Element) (xml entityId : String)
      (root idpSso : Element), fromstring xml = .ok root → DescribesIdp root entityId idpSso →
        ImportsAsked (parseIdpMetadata fromstring xml) entityId idpSso := by
  intro claimed
  have imports := claimed (parserOf [("encryption", "MIIE")])
    (documentXml [("encryption", "MIIE")]) "idp" _ _ (parserOf_document _)
    (documentWith_describes _)
  obtain ⟨text, refused⟩ := imports
  simp only [parseIdpMetadata, parserOf_document] at refused
  cases refused

end TacacsWeb.Verif
