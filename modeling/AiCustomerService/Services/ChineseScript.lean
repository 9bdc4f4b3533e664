import AiCustomerService.Workflows.SlotExtractors

/-!
# The script of a Chinese text

`normalize_language_code`, and `chinese_script.py`: a text is moved to the script of its language
character by character, and a text is in the wrong script when it has a marker of the other one, or
any Chinese character for another language.
-/

namespace AiCustomerService

open Support

/-! ## Languages -/

/-- `SUPPORTED_LANGUAGE_CODES`. -/
def supportedLanguageCodes : List String :=
  ["zh-Hans", "zh-Hant", "en", "es", "tl", "th", "my", "ms", "unknown"]

/-- `LANGUAGE_ALIASES`. -/
def languageAliases : List (String × String) :=
  [("zh", "zh-Hans"), ("cn", "zh-Hans"), ("zh_cn", "zh-Hans"), ("zh-cn", "zh-Hans"),
    ("zh_hans", "zh-Hans"), ("simplified", "zh-Hans"), ("zh-tw", "zh-Hant"),
    ("zh_tw", "zh-Hant"), ("tw", "zh-Hant"), ("traditional", "zh-Hant"), ("zh_hant", "zh-Hant"),
    ("tagalog", "tl"), ("fil", "tl"), ("filipino", "tl"), ("burmese", "my"), ("mm", "my"),
    ("myanmar", "my"), ("malay", "ms"), ("thai", "th")]

/-- `normalize_language_code`. -/
def normalizeLanguageCode (rt : Runtime) (value : Json) : String :=
  let raw := strip (value.textOrEmpty rt)
  if raw = "" then "unknown"
  else if supportedLanguageCodes.contains raw then raw
  else
    let key := String.ofList ((rt.lower raw).toList.map fun c => if c = ' ' then '_' else c)
    (languageAliases.lookup key).getD "unknown"

theorem normalizeLanguageCode_mem (rt : Runtime) (value : Json) :
    normalizeLanguageCode rt value ∈ supportedLanguageCodes := by
  have haliases : languageAliases.all fun entry => supportedLanguageCodes.contains entry.2 := by
    decide +kernel
  unfold normalizeLanguageCode
  dsimp only
  split
  · decide
  · split
    · rename_i hcode
      exact List.contains_iff_mem.mp hcode
    · generalize String.ofList _ = key
      cases hfound : languageAliases.lookup key with
      | none => decide
      | some code =>
          obtain ⟨before, after, hlist, -⟩ := List.lookup_eq_some_iff.mp hfound
          have hentry : (key, code) ∈ languageAliases := by rw [hlist]; simp
          exact List.contains_iff_mem.mp (List.all_eq_true.mp haliases _ hentry)

theorem normalizeLanguageCode_of_mem {rt : Runtime} {code : String}
    (h : code ∈ supportedLanguageCodes) : normalizeLanguageCode rt (.str code) = code := by
  have hstrip : supportedLanguageCodes.all fun code => decide (strip code = code ∧ code ≠ "") := by
    decide +kernel
  obtain ⟨hcode, hne⟩ := of_decide_eq_true (List.all_eq_true.mp hstrip code h)
  have htext : strip ((Json.str code).textOrEmpty rt) = code := by
    rw [Json.textOrEmpty_str, hcode]
  rw [normalizeLanguageCode, htext, if_neg hne, if_pos (List.contains_iff_mem.mpr h)]

/-! ## Scripts -/

/-- `TRADITIONAL_TO_SIMPLIFIED`. -/
def traditionalToSimplified : List (Char × Char) :=
  [('傳', '传'), ('進', '进'), ('驟', '骤'), ('遊', '游'), ('戲', '戏'), ('頁', '页'), ('輸', '输'),
    ('實', '实'), ('際', '际'), ('經', '经'), ('並', '并'), ('單', '单'), ('圖', '图'), ('請', '请'),
    ('點', '点'), ('裡', '里'), ('鈕', '钮'), ('從', '从'), ('選', '选'), ('擇', '择'), ('這', '这'),
    ('個', '个'), ('憑', '凭'), ('證', '证'), ('申', '申'), ('錯', '错'), ('誤', '误'), ('畫', '画'),
    ('面', '面'), ('協', '协'), ('確', '确'), ('認', '认'), ('註', '注'), ('冊', '册'), ('號', '号'),
    ('帳', '账'), ('戶', '户'), ('後', '后'), ('臺', '台'), ('查', '查'), ('詢', '询'), ('轉', '转'),
    ('接', '接'), ('儲', '储'), ('值', '值'), ('關', '关'), ('於', '于'), ('無', '无'), ('當', '当'),
    ('態', '态'), ('數', '数'), ('據', '据'), ('資', '资'), ('料', '料'), ('與', '与'), ('電', '电'),
    ('話', '话'), ('聯', '联'), ('絡', '络'), ('郵', '邮'), ('箱', '箱'), ('機', '机'), ('簡', '简'),
    ('體', '体'), ('歡', '欢'), ('幫', '帮'), ('處', '处'), ('理', '理'), ('發', '发'), ('現', '现'),
    ('顯', '显'), ('示', '示'), ('額', '额'), ('費', '费'), ('時', '时'), ('間', '间'), ('內', '内')]

/-- `SIMPLIFIED_TO_TRADITIONAL`. -/
def simplifiedToTraditional : List (Char × Char) :=
  [('传', '傳'), ('进', '進'), ('骤', '驟'), ('游', '遊'), ('戏', '戲'), ('页', '頁'), ('输', '輸'),
    ('实', '實'), ('际', '際'), ('经', '經'), ('并', '並'), ('单', '單'), ('图', '圖'), ('请', '請'),
    ('点', '點'), ('里', '裡'), ('钮', '鈕'), ('从', '從'), ('选', '選'), ('择', '擇'), ('这', '這'),
    ('个', '個'), ('凭', '憑'), ('证', '證'), ('错', '錯'), ('误', '誤'), ('画', '畫'), ('协', '協'),
    ('确', '確'), ('认', '認'), ('注', '註'), ('册', '冊'), ('号', '號'), ('账', '帳'), ('户', '戶'),
    ('后', '後'), ('台', '台'), ('询', '詢'), ('转', '轉'), ('储', '儲'), ('关', '關'), ('于', '於'),
    ('无', '無'), ('当', '當'), ('态', '態'), ('数', '數'), ('据', '據'), ('资', '資'), ('与', '與'),
    ('电', '電'), ('话', '話'), ('联', '聯'), ('络', '絡'), ('邮', '郵'), ('机', '機'), ('简', '簡'),
    ('体', '體'), ('欢', '歡'), ('帮', '幫'), ('处', '處'), ('发', '發'), ('现', '現'), ('显', '顯'),
    ('额', '額'), ('费', '費'), ('时', '時'), ('间', '間'), ('内', '內')]

/-- `TRADITIONAL_MARKERS`. -/
def traditionalMarkers : List Char :=
  ['傳', '進', '驟', '遊', '戲', '頁', '輸', '實', '際', '經', '並', '單', '圖', '請', '點', '裡', '鈕', '從', '選',
    '擇', '這', '個', '憑', '證', '錯', '誤', '畫', '協', '確', '認', '註', '冊', '號', '帳', '戶', '後', '詢', '轉',
    '儲', '關', '於', '無', '當', '態', '數', '據', '資', '與', '電', '話', '聯', '絡', '郵', '機', '簡', '體', '歡',
    '幫', '處', '發', '現', '顯', '額', '費', '時', '間', '內']

/-- `SIMPLIFIED_MARKERS`. -/
def simplifiedMarkers : List Char :=
  ['传', '进', '骤', '游', '戏', '页', '输', '实', '际', '经', '并', '单', '图', '请', '点', '里', '钮', '从', '选',
    '择', '这', '个', '凭', '证', '错', '误', '画', '协', '确', '认', '注', '册', '号', '账', '户', '后', '询', '转',
    '储', '关', '于', '无', '当', '态', '数', '据', '资', '与', '电', '话', '联', '络', '邮', '机', '简', '体', '欢',
    '帮', '处', '发', '现', '显', '额', '费', '时', '间', '内']

/-- `text.translate(table)`. -/
def translateText (table : List (Char × Char)) (text : String) : String :=
  String.ofList (text.toList.map fun c => (table.lookup c).getD c)

/-- `adapt_chinese_script`. -/
def adaptChineseScript (rt : Runtime) (text : String) (replyLanguage : Json) : String :=
  match normalizeLanguageCode rt replyLanguage with
  | "zh-Hans" => translateText traditionalToSimplified text
  | "zh-Hant" => translateText simplifiedToTraditional text
  | _ => text

/-- The characters of the two ranges that `chinese_script_mismatch` looks for. -/
def isCjk (c : Char) : Bool :=
  (0x3400 ≤ c.toNat && c.toNat ≤ 0x9fff) || (0xf900 ≤ c.toNat && c.toNat ≤ 0xfaff)

/-- The characters that a text in the language must not have. -/
def isForeignTo (language : String) (c : Char) : Bool :=
  match language with
  | "zh-Hans" => traditionalMarkers.contains c
  | "zh-Hant" => simplifiedMarkers.contains c
  | "unknown" => false
  | _ => isCjk c

/-- `chinese_script_mismatch`. -/
def chineseScriptMismatch (rt : Runtime) (text replyLanguage : Json) : Bool :=
  (text.textOrEmpty rt).toList.any (isForeignTo (normalizeLanguageCode rt replyLanguage))

end AiCustomerService
