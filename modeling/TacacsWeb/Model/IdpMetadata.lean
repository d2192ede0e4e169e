import TacacsWeb.Model.AuditedOperations

/-!
# The metadata of an identity provider

`parse_idp_metadata` of `app.saml.keypair`, over the elements that `ET.fromstring` builds. How a
text becomes elements is the parser's matter and stays a parameter; how the entity id, the address
for logins and the certificate are picked out of them is modelled as written.
-/

namespace TacacsWeb.Model

open TacacsWeb.Library TacacsWeb.Library.Text

/-! ## Elements -/

/-- An element of `ElementTree`. -/
inductive Element where
  /-- Its tag with the namespace in front, its attributes, the text before its first child, and its
  children. -/
  | node (tag : String) (attrib : Dict String String) (text : Option String)
      (children : List Element)

namespace Element

/-- `element.tag`. -/
def tag : Element → String
  | .node tag _ _ _ => tag

/-- `element.attrib`. -/
def attrib : Element → Dict String String
  | .node _ attrib _ _ => attrib

/-- `element.text`. -/
def text : Element → Option String
  | .node _ _ text _ => text

/-- The children, in document order. -/
def children : Element → List Element
  | .node _ _ _ children => children

/-- `element.findall(tag)`. -/
def findall (tag : String) (element : Element) : List Element :=
  element.children.filter fun child => child.tag = tag

/-- The elements that a path of tags leads to, in document order. -/
def along : List String → Element → List Element
  | [], element => [element]
  | tag :: path, element => (element.findall tag).flatMap (along path)

/-- `element.find(path)`. -/
def find (path : List String) (element : Element) : Option Element := (element.along path).head?

end Element

/-- What `ET.fromstring` raises. -/
inductive XmlFault where
  /-- `ParseError`, with its text. -/
  | parseError (text : String)
  /-- Another exception: the document declares entities or a DTD, say. -/
  | other
deriving DecidableEq

/-! ## The choices -/

/-- A tag in a namespace. -/
def qualified (namespaceUri localName : String) : String :=
  "\x7b" ++ namespaceUri ++ "\x7d" ++ localName

/-- `SAML_HTTP_REDIRECT`. -/
def samlHttpRedirect : String := "urn:oasis:names:tc:SAML:2.0:bindings:HTTP-Redirect"

/-- `SAML_HTTP_POST`. -/
def samlHttpPost : String := "urn:oasis:names:tc:SAML:2.0:bindings:HTTP-POST"

/-- `SAML2_MD_NS`. -/
def saml2MdNs : String := "urn:oasis:names:tc:SAML:2.0:metadata"

/-- `XMLDSIG_NS`. -/
def xmldsigNs : String := "http://www.w3.org/2000/09/xmldsig#"

/-- The tag of the descriptor of an identity provider. -/
def idpSsoDescriptor : String := qualified saml2MdNs "IDPSSODescriptor"

/-- The tag of a service for logins. -/
def singleSignOnService : String := qualified saml2MdNs "SingleSignOnService"

/-- The tag of a key. -/
def keyDescriptor : String := qualified saml2MdNs "KeyDescriptor"

/-- The path from a key to its certificate. -/
def certificatePath : List String :=
  [qualified xmldsigNs "KeyInfo", qualified xmldsigNs "X509Data",
    qualified xmldsigNs "X509Certificate"]

/-- The loop over the services: the first redirect ends it, the first POST is kept meanwhile. -/
def chooseSso : List Element → Option (String × String) → Option (String × String)
  | [], sso => sso
  | service :: services, sso =>
    let binding := (service.attrib.get? "Binding").getD ""
    let location := (service.attrib.get? "Location").getD ""
    if location = "" then chooseSso services sso
    else if binding = samlHttpRedirect then some (location, binding)
    else if sso = none ∧ binding = samlHttpPost then chooseSso services (some (location, binding))
    else chooseSso services sso

/-- `re.sub(r"\s+", "", text)`. -/
def withoutSpace (text : String) : String :=
  String.ofList (text.toList.filter fun char => !isSpace char)

/-- A text is white space. -/
def IsBlank (text : String) : Prop := ∀ char ∈ text.toList, isSpace char = true

instance (text : String) : Decidable (IsBlank text) :=
  decidable_of_iff (text.toList.all isSpace = true) List.all_eq_true

/-- Nothing is left of a text exactly when it is white space. -/
theorem withoutSpace_eq_empty_iff {text : String} : withoutSpace text = "" ↔ IsBlank text := by
  have empty : withoutSpace text = "" ↔ (text.toList.filter fun char => !isSpace char) = [] := by
    unfold withoutSpace
    rw [← String.toList_inj, String.toList_ofList]
    rfl
  rw [empty, List.filter_eq_nil_iff]
  unfold IsBlank
  constructor
  · intro none char listed
    have space := none char listed
    simpa using space
  · intro blank char listed
    simp [blank char listed]

/-- The text of the certificate of a key, when there is one that is not empty. -/
def certificateText (key : Element) : Option String :=
  ((key.find certificatePath).bind Element.text).filter fun text => text ≠ ""

/-- The certificates that the loop over the keys comes back with. -/
structure ChosenCertificates where
  /-- `signing_cert`. -/
  signing : Option String
  /-- `any_cert`. -/
  any : Option String

/-- The loop over the keys: the first one for signing ends it, the first one at all is kept. -/
def chooseCertificates : List Element → Option String → ChosenCertificates
  | [], any => ⟨none, any⟩
  | key :: keys, any =>
    match certificateText key with
    | none => chooseCertificates keys any
    | some text =>
      let cleaned := withoutSpace text
      let any := any.or (some cleaned)
      if key.attrib.get? "use" = some "signing" then ⟨some cleaned, any⟩
      else chooseCertificates keys any

/-- `signing_cert or any_cert`. -/
def ChosenCertificates.certificate (chosen : ChosenCertificates) : Option String :=
  (chosen.signing.filter fun text => text ≠ "").or chosen.any

/-- The certificates of some keys, in order: what they are for and their text. -/
def certificates (keys : List Element) : List (Option String × String) :=
  keys.filterMap fun key => (certificateText key).map fun text => (key.attrib.get? "use", text)

/-- The loop over the keys comes back with the first certificate for signing and with the first one
at all. -/
theorem chooseCertificates_eq (keys : List Element) (any : Option String) :
    chooseCertificates keys any =
      ⟨((certificates keys).find? fun certificate => certificate.1 = some "signing").map
          fun certificate => withoutSpace certificate.2,
        any.or ((certificates keys).head?.map fun certificate => withoutSpace certificate.2)⟩ := by
  induction keys generalizing any with
  | nil =>
    cases any <;> rfl
  | cons key keys ih =>
    unfold chooseCertificates
    cases found : certificateText key with
    | none =>
      have skipped : certificates (key :: keys) = certificates keys := by
        simp [certificates, found]
      rw [skipped]
      exact ih any
    | some text =>
      have listed : certificates (key :: keys) =
          (key.attrib.get? "use", text) :: certificates keys := by
        simp [certificates, found]
      have first : (any.or (some (withoutSpace text))).or
          ((certificates keys).head?.map fun certificate => withoutSpace certificate.2) =
            any.or (some (withoutSpace text)) := by
        cases any <;> rfl
      rw [listed]
      by_cases signing : key.attrib.get? "use" = some "signing"
      · simp only [List.find?_cons, signing, decide_true, if_true, Option.map_some,
          List.head?_cons]
      · simp only [List.find?_cons, signing, decide_false, if_false, List.head?_cons,
          Option.map_some, ih, first]

/-- A text that ends with another. -/
def endsWith (ending text : String) : Bool := ending.toList.isSuffixOf text.toList

/-- What is read from the root of a document, or the text of `InvalidIdpMetadata`. -/
def readMetadata (root : Element) : Except String IdpMetadata :=
  if !endsWith "EntityDescriptor" root.tag then
    .error ("expected EntityDescriptor at the root, got " ++ root.tag)
  else match (root.attrib.get? "entityID").filter (fun entityId => entityId ≠ "") with
    | none => .error "missing entityID attribute"
    | some entityId =>
      match root.find [idpSsoDescriptor] with
      | none => .error "no IDPSSODescriptor in metadata"
      | some idpSso =>
        match chooseSso (idpSso.findall singleSignOnService) none with
        | none => .error "no usable SingleSignOnService (HTTP-Redirect or POST)"
        | some sso =>
          match (chooseCertificates (idpSso.findall keyDescriptor) none).certificate with
          | none => .error "no X.509 signing cert in metadata"
          | some certificate => .ok ⟨entityId, sso.1, sso.2, certificate⟩

/-- What `parse_idp_metadata` raises. -/
inductive MetadataFault where
  /-- `InvalidIdpMetadata`, with its text. -/
  | invalid (text : String)
  /-- Another exception, from the parser. -/
  | other
deriving DecidableEq

/-- `parse_idp_metadata`. -/
def parseIdpMetadata (fromstring : String → Except XmlFault Element) (xml : String) :
    Except MetadataFault IdpMetadata :=
  match fromstring xml with
  | .error (.parseError text) => .error (.invalid ("not XML: " ++ text))
  | .error .other => .error .other
  | .ok root => (readMetadata root).mapError .invalid

/-- `import_idp_metadata` over that parser. -/
def importIdpMetadataHandler (fromstring : String → Except XmlFault Element)
    (ctx : SessionContext) (xml : String) : AdminScript :=
  match parseIdpMetadata fromstring xml with
  | .error .other => if ctx.role ≠ "admin" then refuse 403 (some "admin_required") else .raise
  | .error (.invalid text) => importIdpMetadata (fun _ => .error text) ctx xml
  | .ok idp => importIdpMetadata (fun _ => .ok idp) ctx xml

end TacacsWeb.Model
