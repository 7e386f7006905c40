import RockRadio.Library.QueryString
import RockRadio.SideMenuController.Rows

/-!
# The addresses of mails and messages

`createEmailUrl` splices the recipient, the subject and the body into the template of a mail client,
`openWhatsApp` the number into an address of the service. The recipient is not escaped at all, and
the character sets used for the rest leave the delimiters of a query alone.

## Main results

* `createEmailUrl_eq` — the address returned is that of the first client that opens.
* `recovered_iff_plain` — an address gives the texts back, when it is taken apart by its own syntax,
  exactly when they are free of the delimiters that its template does not escape.
-/

namespace RockRadio

open PercentEncoding QueryString

variable {URL : Type} (os : Platform URL) (recipient subject body phone : String)

theorem addingPercentEncoding_eq (allowed : Char → Bool) (s : String) :
    addingPercentEncoding allowed s = some (String.ofList (encode allowed s.toList)) := rfl

/-! ## The templates -/

/-- The clients of `createEmailUrl`, in the order in which it tries them. -/
inductive MailClient where
  | gmail | outlook | yahooMail | spark | mailto
  deriving DecidableEq

/-- The text of which the client's address is made. -/
def MailClient.text (client : MailClient) : String :=
  let subjectEncoded := String.ofList (encode urlHostAllowed subject.toList)
  let bodyEncoded := String.ofList (encode urlHostAllowed body.toList)
  match client with
  | .gmail => "googlegmail://co?to=" ++ recipient ++ "&subject=" ++ subjectEncoded ++ "&body=" ++
      bodyEncoded
  | .outlook => "ms-outlook://compose?to=" ++ recipient ++ "&subject=" ++ subjectEncoded
  | .yahooMail => "ymail://mail/compose?to=" ++ recipient ++ "&subject=" ++ subjectEncoded ++
      "&body=" ++ bodyEncoded
  | .spark => "readdle-spark://compose?recipient=" ++ recipient ++ "&subject=" ++
      subjectEncoded ++ "&body=" ++ bodyEncoded
  | .mailto => "mailto:" ++ recipient ++ "?subject=" ++ subjectEncoded ++ "&body=" ++ bodyEncoded

/-- The device opens the client's address. -/
def MailClient.Opens (client : MailClient) : Prop :=
  (openable os (os.url (client.text recipient subject body))).isSome = true

instance (client : MailClient) : Decidable (client.Opens os recipient subject body) :=
  inferInstanceAs (Decidable (_ = _))

/-- The first client that opens, and the default one otherwise. -/
def mailClient : MailClient :=
  ([.gmail, .outlook, .yahooMail, .spark].find? fun client : MailClient =>
    client.Opens os recipient subject body).getD .mailto

theorem url_of_openable {address : Option URL} (h : (openable os address).isSome = true) :
    openable os address = address := by
  cases address with
  | none => rfl
  | some url =>
    rw [openable, Option.isSome_filter] at h
    exact Option.filter_eq_some_iff.mpr ⟨rfl, h⟩

/-- Trying the clients in turn gives the address of the first that opens. -/
theorem foldr_openable_or (clients : List MailClient) (default_ : MailClient) :
    clients.foldr (fun client other =>
        (openable os (os.url (client.text recipient subject body))).or other)
      (os.url (default_.text recipient subject body)) =
    os.url (((clients.find? fun client : MailClient =>
      client.Opens os recipient subject body).getD default_).text recipient subject body) := by
  induction clients with
  | nil => rfl
  | cons client clients ih =>
    rw [List.foldr_cons, ih]
    by_cases opens : client.Opens os recipient subject body
    · have first : decide (client.Opens os recipient subject body) = true := decide_eq_true opens
      rw [List.find?_cons, first, Option.or_of_isSome opens, url_of_openable os opens]
      rfl
    · have skipped : decide (client.Opens os recipient subject body) = false :=
        decide_eq_false opens
      rw [List.find?_cons, skipped, Option.not_isSome_iff_eq_none.mp opens, Option.none_or]

/-- `createEmailUrl` returns the address of the chosen client. -/
theorem createEmailUrl_eq :
    createEmailUrl os recipient subject body =
      .ok (os.url ((mailClient os recipient subject body).text recipient subject body)) := by
  unfold createEmailUrl mailClient
  rw [addingPercentEncoding_eq, addingPercentEncoding_eq,
    ← foldr_openable_or os recipient subject body [.gmail, .outlook, .yahooMail, .spark] .mailto]
  rfl

/-! ## Taking the addresses apart -/

/-- The address, taken apart by its own syntax, gives the texts back. -/
def MailClient.Recovers (client : MailClient) (address : String) : Prop :=
  let rest := [("subject".toList, subject.toList), ("body".toList, body.toList)]
  match client with
  | .mailto => decode ((path address.toList).drop "mailto:".length) = some recipient.toList ∧
      items (query address.toList) = some rest
  | .spark => items (query address.toList) = some (("recipient".toList, recipient.toList) :: rest)
  | _ => items (query address.toList) = some (("to".toList, recipient.toList) :: rest)

/-- The texts are free of what the template does not escape. -/
def MailClient.Plain (client : MailClient) : Prop :=
  match client with
  | .mailto => '?' ∉ recipient.toList ∧ '%' ∉ recipient.toList ∧ '&' ∉ subject.toList ∧
      '&' ∉ body.toList
  -- the template has no place for the body
  | .outlook => False
  | _ => '&' ∉ recipient.toList ∧ '%' ∉ recipient.toList ∧ '&' ∉ subject.toList ∧
      '&' ∉ body.toList

/-- What comes before the first `?` of the template. -/
def MailClient.head (client : MailClient) : List Char :=
  match client with
  | .gmail => "googlegmail://co".toList
  | .outlook => "ms-outlook://compose".toList
  | .yahooMail => "ymail://mail/compose".toList
  | .spark => "readdle-spark://compose".toList
  | .mailto => "mailto:".toList ++ recipient.toList

/-- The fields of the template. -/
def MailClient.fields (client : MailClient) : List Field :=
  let sendTo := Field.plain "to".toList recipient.toList
  let subject := Field.encoded urlHostAllowed "subject".toList subject.toList
  let body := Field.encoded urlHostAllowed "body".toList body.toList
  match client with
  | .gmail | .yahooMail => [sendTo, subject, body]
  | .outlook => [sendTo, subject]
  | .spark => [Field.plain "recipient".toList recipient.toList, subject, body]
  | .mailto => [subject, body]

theorem MailClient.toList_text (client : MailClient) :
    (client.text recipient subject body).toList =
      client.head recipient ++ '?' :: join (client.fields recipient subject body) := by
  have gmail : "googlegmail://co?to=".toList =
      "googlegmail://co".toList ++ '?' :: "to".toList ++ ['='] := rfl
  have outlook : "ms-outlook://compose?to=".toList =
      "ms-outlook://compose".toList ++ '?' :: "to".toList ++ ['='] := rfl
  have yahooMail : "ymail://mail/compose?to=".toList =
      "ymail://mail/compose".toList ++ '?' :: "to".toList ++ ['='] := rfl
  have spark : "readdle-spark://compose?recipient=".toList =
      "readdle-spark://compose".toList ++ '?' :: "recipient".toList ++ ['='] := rfl
  have mailto : "?subject=".toList = '?' :: "subject".toList ++ ['='] := rfl
  have nextSubject : "&subject=".toList = '&' :: "subject".toList ++ ['='] := rfl
  have nextBody : "&body=".toList = '&' :: "body".toList ++ ['='] := rfl
  unfold text head fields
  cases client <;>
    simp only [String.toList_append, String.toList_ofList, gmail, outlook, yahooMail, spark, mailto,
      nextSubject, nextBody, join, Field.text, Field.plain, Field.encoded, List.append_assoc,
      List.cons_append, List.nil_append]

/-- The field for a text that is encoded. -/
theorem fit_urlHostAllowed {name : List Char} (h : '&' ∉ name ∧ '=' ∉ name ∧ '%' ∉ name)
    (value : List Char) : (Field.encoded urlHostAllowed name value).Fit :=
  Field.fit_encoded h (by decide) (by decide)

theorem reads_urlHostAllowed_iff {name value : List Char} :
    (Field.encoded urlHostAllowed name value).Reads ↔ '&' ∉ value :=
  Field.reads_encoded_iff (by decide) (by decide)

namespace MailClient

variable {recipient subject body}

theorem fit_fields (client : MailClient) :
    ∀ f ∈ client.fields recipient subject body, f.Fit := by
  have sendTo : (Field.plain "to".toList recipient.toList).Fit := Field.fit_plain (by decide)
  have sparkTo : (Field.plain "recipient".toList recipient.toList).Fit :=
    Field.fit_plain (by decide)
  have subject := @fit_urlHostAllowed "subject".toList (by decide) subject.toList
  have body := @fit_urlHostAllowed "body".toList (by decide) body.toList
  unfold fields
  cases client <;>
    simp only [List.forall_mem_cons, sendTo, sparkTo, subject, body, List.not_mem_nil,
      IsEmpty.forall_iff, implies_true, and_self]

/-- The query of an address says what its fields say exactly when each of them reads so. -/
theorem items_text_iff (client : MailClient) (plain : '?' ∉ client.head recipient)
    (more : List (List Char × List Char)) :
    items (query (client.text recipient subject body).toList) =
        some ((client.fields recipient subject body).map Field.said ++ more) ↔
      (∀ f ∈ client.fields recipient subject body, f.Reads) ∧ more = [] := by
  have some_ : client.fields recipient subject body ≠ [] := by
    unfold fields
    cases client <;> exact List.cons_ne_nil _ _
  rw [toList_text, query_append plain]
  exact items_join_iff some_ client.fit_fields more

/-- Only in a `mailto` address does the recipient come before the query. -/
theorem not_mem_head {client : MailClient} (h : client ≠ .mailto) :
    '?' ∉ client.head recipient := by
  have gmail : '?' ∉ "googlegmail://co".toList := by decide
  have outlook : '?' ∉ "ms-outlook://compose".toList := by decide
  have yahooMail : '?' ∉ "ymail://mail/compose".toList := by decide
  have spark : '?' ∉ "readdle-spark://compose".toList := by decide
  unfold head
  cases client with
  | gmail => exact gmail
  | outlook => exact outlook
  | yahooMail => exact yahooMail
  | spark => exact spark
  | mailto => exact absurd rfl h

/-- The recipient of a `mailto` address is read up to the first `?`. -/
theorem recipient_mailto_iff :
    decode ((path (text recipient subject body .mailto).toList).drop "mailto:".length) =
      some recipient.toList ↔ '?' ∉ recipient.toList ∧ '%' ∉ recipient.toList := by
  have scheme : '?' ∉ "mailto:".toList := by decide
  have before : path (text recipient subject body .mailto).toList =
      "mailto:".toList ++ recipient.toList.takeWhile (· ≠ '?') := by
    rw [toList_text, path_append]
    exact takeWhile_append_of_not_mem scheme recipient.toList
  have after : (path (text recipient subject body .mailto).toList).drop "mailto:".length =
      recipient.toList.takeWhile (· ≠ '?') := by
    rw [before]
    exact List.drop_left
  rw [after]
  exact decode_takeWhile_iff

/-- A query with a spliced recipient and an encoded subject and body. -/
theorem forall_reads_iff (name : List Char) :
    ((∀ f ∈ [Field.plain name recipient.toList,
          Field.encoded urlHostAllowed "subject".toList subject.toList,
          Field.encoded urlHostAllowed "body".toList body.toList], f.Reads) ∧
        ([] : List (List Char × List Char)) = []) ↔
      '&' ∉ recipient.toList ∧ '%' ∉ recipient.toList ∧ '&' ∉ subject.toList ∧
        '&' ∉ body.toList := by
  simp only [List.forall_mem_cons, Field.reads_plain_iff, reads_urlHostAllowed_iff]
  simp [and_assoc]

/-- An address gives the texts back exactly when they are free of what its template does not
escape. -/
theorem recovers_text_iff (client : MailClient) :
    client.Recovers recipient subject body (client.text recipient subject body) ↔
      client.Plain recipient subject body := by
  cases client with
  | gmail =>
    exact (items_text_iff .gmail (not_mem_head nofun) []).trans (forall_reads_iff "to".toList)
  | outlook =>
    refine (items_text_iff .outlook (not_mem_head nofun) [("body".toList, body.toList)]).trans ?_
    simp [Plain]
  | yahooMail =>
    exact (items_text_iff .yahooMail (not_mem_head nofun) []).trans (forall_reads_iff "to".toList)
  | spark =>
    exact (items_text_iff .spark (not_mem_head nofun) []).trans
      (forall_reads_iff "recipient".toList)
  | mailto =>
    refine (and_congr_left' recipient_mailto_iff).trans ?_
    unfold Plain
    rw [and_assoc]
    refine and_congr_right fun plain => and_congr_right fun _ => ?_
    refine (items_text_iff .mailto ?_ []).trans ?_
    · have scheme : '?' ∉ "mailto:".toList := by decide
      unfold head
      exact List.not_mem_append scheme plain
    · simp only [fields, List.forall_mem_cons, reads_urlHostAllowed_iff]
      simp

end MailClient

/-! ## Messages -/

/-- The address `openWhatsApp` makes of a number. -/
def whatsAppUrl : Option URL :=
  (addingPercentEncoding urlQueryAllowed ("https://api.whatsapp.com/send?phone=" ++ phone)).bind
    os.url

theorem openWhatsApp_eq_openable :
    openWhatsApp os phone = (openable os (whatsAppUrl os phone)).map .openURL := rfl

/-- The text of which the address is made. -/
def whatsAppText : String :=
  String.ofList (encode urlQueryAllowed ("https://api.whatsapp.com/send?phone=" ++ phone).toList)

theorem whatsAppUrl_eq : whatsAppUrl os phone = os.url (whatsAppText phone) := by
  rw [whatsAppUrl, addingPercentEncoding_eq]
  rfl

def phoneField : Field := Field.encoded urlQueryAllowed "phone".toList phone.toList

/-- Encoding leaves the address of the service as it is. -/
theorem toList_whatsAppText :
    (whatsAppText phone).toList =
      "https://api.whatsapp.com/send".toList ++ '?' :: join [phoneField phone] := by
  have service : "https://api.whatsapp.com/send?phone=".toList.all urlQueryAllowed = true := by
    decide
  have split : "https://api.whatsapp.com/send?phone=".toList =
      "https://api.whatsapp.com/send".toList ++ '?' :: "phone".toList ++ ['='] := rfl
  unfold whatsAppText phoneField
  rw [String.toList_ofList, String.toList_append, encode_append,
    encode_of_allowed (List.all_eq_true.mp service), split]
  simp only [join, Field.text, Field.encoded, List.append_assoc, List.cons_append, List.nil_append]

/-- The number is read up to its first `&`. -/
theorem items_whatsAppText_iff :
    items (query (whatsAppText phone).toList) = some [("phone".toList, phone.toList)] ↔
      '&' ∉ phone.toList := by
  have service : '?' ∉ "https://api.whatsapp.com/send".toList := by decide
  have fit : ∀ f ∈ [phoneField phone], f.Fit := by
    intro f mem
    rw [List.mem_singleton.mp mem]
    exact Field.fit_encoded (by decide) (by decide) (by decide)
  rw [toList_whatsAppText, query_append service]
  refine (items_join_iff (List.cons_ne_nil _ _) fit []).trans ?_
  rw [List.forall_mem_singleton, and_iff_left rfl]
  exact Field.reads_encoded_iff (by decide) (by decide)

/-! ## What an address gives back -/

variable {os} (absoluteString : URL → String)

/-- A mail address gives the recipient, the subject and the body back exactly when they are free of
what the template of the chosen client does not escape, and the address of a message gives the
number back exactly when no `&` is in it. -/
theorem recovered_iff_plain
    (parsed : ∀ s url, os.url s = some url → absoluteString url = s) :
    (∀ url, createEmailUrl os recipient subject body = .ok (some url) →
      ((mailClient os recipient subject body).Recovers recipient subject body
          (absoluteString url) ↔
        (mailClient os recipient subject body).Plain recipient subject body)) ∧
    ∀ url, whatsAppUrl os phone = some url →
      (items (query (absoluteString url).toList) = some [("phone".toList, phone.toList)] ↔
        '&' ∉ phone.toList) := by
  constructor
  · intro url h
    rw [createEmailUrl_eq, Except.ok.injEq] at h
    rw [parsed _ _ h]
    exact MailClient.recovers_text_iff _
  · intro url h
    rw [whatsAppUrl_eq] at h
    rw [parsed _ _ h]
    exact items_whatsAppText_iff phone

/-- A device that opens no address chooses the default client. -/
theorem mailClient_text : mailClient Platform.text recipient subject body = .mailto := by
  have closed (address : Option String) : openable Platform.text address = none := by
    cases address <;> rfl
  have none_opens (client : MailClient) :
      ¬client.Opens Platform.text recipient subject body := by
    simp [MailClient.Opens, closed]
  simp [mailClient, none_opens]

theorem recovered_iff_plain_mailto :
    MailClient.Recovers "office@example.org" "A=B" "" .mailto
        "mailto:office@example.org?subject=A=B&body=" ∧
      items (query "https://api.whatsapp.com/send?phone=+15550100".toList) =
        some [("phone".toList, "+15550100".toList)] := by
  have parsed : ∀ s url, Platform.text.url s = some url → id url = s := by
    intro s url h
    rw [Platform.text, Option.ite_none_left_eq_some] at h
    exact (Option.some.inj h.2).symm
  have created : createEmailUrl Platform.text "office@example.org" "A=B" "" =
      .ok (some "mailto:office@example.org?subject=A=B&body=") := by
    rw [createEmailUrl_eq, mailClient_text]
    decide +kernel
  have built : whatsAppUrl Platform.text "+15550100" =
      some "https://api.whatsapp.com/send?phone=+15550100" := by
    decide +kernel
  obtain ⟨mail, message⟩ :=
    recovered_iff_plain "office@example.org" "A=B" "" "+15550100" id parsed
  have mail := mail _ created
  rw [mailClient_text] at mail
  have plain : MailClient.Plain "office@example.org" "A=B" "" .mailto := by
    unfold MailClient.Plain
    decide
  exact ⟨mail.mpr plain, (message _ built).mpr (by decide)⟩

/-- A `?` may stand in a mail address, and ends the recipient. -/
theorem recipient_cut_off :
    ∃ url, createEmailUrl Platform.text "who?@example.org" "" "" = .ok (some url) ∧
      ¬(mailClient Platform.text "who?@example.org" "" "").Recovers "who?@example.org" "" ""
        url := by
  refine ⟨MailClient.text "who?@example.org" "" "" .mailto, ?_, ?_⟩
  · rw [createEmailUrl_eq, mailClient_text]
    decide +kernel
  · rw [mailClient_text, MailClient.recovers_text_iff]
    rintro ⟨plain, -⟩
    exact plain (by decide)

end RockRadio
