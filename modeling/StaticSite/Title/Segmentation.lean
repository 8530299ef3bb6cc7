import StaticSite.Text.Blank
import StaticSite.Text.Case
import StaticSite.Text.WordChar

/-!
# Cutting a run of letters into words

* `wordBreak` cuts a text into as few words as possible; among the ways to do so the one with the
  longest last word counts, then the one with the longest word before it, and so on.
* `greedySegment` always succeeds: it takes the longest word at each place, and collects the
  characters at which no word begins.

Words are compared in small letters. `wordBreak` works on lengths: the table of the shortest
segmentations of all beginnings of the text grows by one character at a time.
-/

namespace StaticSite.Title

/-!
## The dictionary of site titles

The words that hostnames are cut into, and the words that are written in a way of their own.
-/

/-- Words with a spelling of their own, by their small letters. -/
def brandCasing : List (String × String) :=
  [("ai", "AI"), ("seo", "SEO"), ("usa", "USA"), ("uk", "UK"),
   ("hvac", "HVAC"), ("diy", "DIY"), ("llc", "LLC"), ("faq", "FAQ"),
   ("ev", "EV"), ("tv", "TV"), ("pc", "PC"), ("vpn", "VPN"),
   ("crm", "CRM"), ("saas", "SaaS"), ("401k", "401k"), ("iphone", "iPhone"),
   ("ipad", "iPad"), ("youtube", "YouTube"), ("linkedin", "LinkedIn"), ("wordpress", "WordPress"),
   ("paypal", "PayPal"), ("ebay", "eBay"), ("github", "GitHub"), ("tiktok", "TikTok"),
   ("and", "and"), ("of", "of"), ("for", "for"), ("the", "the")]

/-- Words that stay small unless they open a title. -/
def minorWords : List String := ["and", "of", "for", "the"]

/-- The common words, line by line. -/
def commonWords : List String :=
  ["able about above accident accidents accountant accountants action active adult advice",
   "advisor advisors after age agency agent agents aid air airline airport alarm all alliance",
   "alpha alternative america american analysis animal animals annuity answer answers anti",
   "apartment apartments app apps arena army art arts asset assets assist assistance attorney",
   "attorneys audio auto autos award away baby back bad bag bags bank bankruptcy banks bar",
   "base basic bath bathroom battery bay beach bear beauty bed bedroom bee before being",
   "benefit benefits best bet better bike bikes bill bills bio bird birth black blog blue",
   "board boat boats body bond bonds book books boost boss box boy brain brand bridge bright",
   "budget build builder builders building bulk bus business buy buyer buyers buzz cafe",
   "calculator calculators call camp camping cancer capital car card cards care career careers",
   "cars case cash cat cats center central centre chain change channel charge cheap check",
   "checker chef child children choice choose church city claim claims class classic clean",
   "cleaner cleaning clear clinic clinics cloud club coach coaching code coffee coin coins",
   "cold college colleges color comfort compare comparison compass complete computer condo",
   "connect construction consult consumer control cook cooking cool core corner cost costs",
   "country county coupon coupons course courses cover coverage craft credit crowd cruise",
   "custom cyber daily damage data date dating day days deal dealer deals debt decision decor",
   "defense dental dentist dentists design designs desk detox diabetes diet digital direct",
   "discount divorce doctor doctors dog dogs dollar dollars door doors drive driver drivers",
   "driving drone dry dui eagle earn earth easy eat eco edge education elder electric",
   "electrician elite email emergency energy engine estate estimate estimates event events",
   "every exchange expert experts express eye eyes face fact facts family fan farm fast father",
   "fee fees field file finance financial find finder fire first fish fit fitness fix flat",
   "fleet flight flights floor flooring flow fly food foods for force forest form fort forum",
   "forward free fresh friend friends front fuel fund funding funds future game games garage",
   "garden gas gear general get gift gifts girl glass global go gold golf good grade grand",
   "grant grants green grid ground group grow growth guard guide guides gun guru gym habit",
   "hair half hand happy hard health healthy heart heat heating help helper hero high hike",
   "hill hire history hit hobby hold holiday home homes honest hope horse hospital host hot",
   "hotel hotels hour house housing how hub hunt hunter idea ideas income index info injury",
   "inside insight insights insurance insure invest investing investment investor iron island",
   "job jobs join journal junk just keep key kid kids kit kitchen know knowledge lab labs land",
   "laptop law lawn laws lawyer lawyers lead leader leads learn lease legal lender lenders",
   "lens level liberty life light limit line link list live living load loan loans local lock",
   "locksmith logic long look loss lot love low luxury mac made magic mail main make maker",
   "mall man manager map market marketing mart master match mate meal meals media medical",
   "medicare medicine meet mega men mental menu method metro mind mini mint mobile modern mold",
   "money monitor month more mortgage mortgages mother motor move mover movers moving much",
   "music my name nation national native natural nature near need needs net network new news",
   "next nice night nurse nursing nutrition office offer official oil old one online only open",
   "option options order organic outdoor owner pack page pain paint painter pal parent parents",
   "park part parts party pass path pay payday pet pets phone photo physio pick pilot pipe",
   "pizza place plan planet planner planning plans plant play plumber plumbing plus point",
   "policy pool portal post power prep price prices pricing prime pro process product products",
   "profit project proof property protect pure quick quote quotes race radio rank rate rates",
   "rating ratings read ready real realty record recovery red rehab relief remodel remodeling",
   "rent rental rentals repair repairs report rescue research resource resources rest result",
   "results retire retirement review reviews rich ride right ring rise risk road robot rock",
   "roof roofer roofing room rooms root route rule safe safety sale sales salon save saver",
   "savings scan school schools score search secure security seed select sell seller senior",
   "seniors service services settlement shield ship shop shopping shore short show side sign",
   "simple site size skin sky sleep smart smile social soft solar solution solutions sound",
   "source space spark spot sport sports spring square staff star start state states station",
   "step stock stop storage store story strategy street strong student study style success",
   "summer sun super supply support sure surgery swift system systems tag talk tax taxes team",
   "tech technology test tests therapy thing things think tips today tool tools top total tour",
   "tours town track trade trader trading trail train training travel tree trend trial truck",
   "trucks true trust truth tutor tv type ultra union unit united up urban used user valley",
   "value van vault vehicle vet view villa vision visit vital voice wall wallet want war",
   "warranty wash watch water way ways wealth weather web wedding week weight well wellness",
   "west wheel white wide wild will win wind window windows wine wise woman women wood word",
   "work worker workers works world worth yard year years yes yoga you young your zen zone"]

/-- Whether a word with a spelling of its own can stand inside a run of letters. -/
def isDictionaryBrand (w : String) : Bool := w.toList.all Text.isLetter && 1 < w.length

/-- All words that a run of letters can be cut into. -/
def dictionary : List (List Char) :=
  (commonWords.flatMap Text.words ++ (brandCasing.map (·.1)).filter isDictionaryBrand).map
    String.toList

/-! ## Segmentations -/

/-- The length of the longest word. -/
def longestWord (words : List (List Char)) : Nat := words.foldl (fun n w => max n w.length) 0

/-- The lengths of the pieces of a segmentation, last one first. -/
abbrev Pieces := List Nat

/-- The better one of two segmentations: the second one unless it has more pieces. -/
def better : Option Pieces → Pieces → Option Pieces
  | none, p => some p
  | some q, p => if p.length ≤ q.length then some p else some q

/-- The best segmentation of a beginning of a text that ends in a word of at least `k` characters.
`table` holds the best segmentations of the beginnings that are shorter by `k` characters, by
`k + 1` characters, and so on; `ending` is the beginning itself, last character first. -/
def bestEnding (words : List (List Char)) (ending : List Char) :
    Nat → List (Option Pieces) → Option Pieces → Option Pieces
  | _, [], found => found
  | k, entry :: table, found =>
    let found := match entry with
      | none => found
      | some p => if words.contains (ending.take k).reverse then better found (k :: p) else found
    bestEnding words ending (k + 1) table found

/-- The best segmentations of the beginnings of a text, longest beginning first. `table` holds
those of the beginnings up to `ending`. -/
def breakTable (words : List (List Char)) (longest : Nat) :
    List Char → List Char → List (Option Pieces) → List (Option Pieces)
  | [], _, table => table
  | c :: rest, ending, table =>
    let ending := c :: ending
    breakTable words longest rest ending
      (bestEnding words ending 1 (table.take longest) none :: table)

/-- The lengths of the pieces of the best segmentation of a text in small letters. -/
def breakLengths (words : List (List Char)) (lowered : List Char) : Option (List Nat) :=
  ((breakTable words (longestWord words) lowered [] [some []]).headD none).map List.reverse

/-- Consecutive pieces of given lengths. -/
def cut : List Nat → List Char → List (List Char)
  | [], _ => []
  | n :: ns, cs => cs.take n :: cut ns (cs.drop n)

/-- The segmentation of a text into the fewest words. -/
def wordBreak (words : List (List Char)) (text : List Char) : Option (List (List Char)) :=
  (breakLengths words (Text.lowerList text)).map (cut · text)

/-- The length of the longest word at the start of a text in small letters, at most `k`. -/
def longestMatch (words : List (List Char)) (lowered : List Char) : Nat → Nat
  | 0 => 0
  | k + 1 => if words.contains (lowered.take (k + 1)) then k + 1 else longestMatch words lowered k

/-- What a greedy segmentation has so far: its tokens, last one first, and whether the last one
ends in characters that begin no word. -/
structure Greedy where
  tokens : List (List Char)
  unmatched : Bool

/-- Takes a character at which no word begins. It joins the last token when that one is short or
ends in such characters itself. -/
def Greedy.addChar (g : Greedy) (c : Char) : Greedy :=
  match g.tokens with
  | [] => ⟨[[c]], true⟩
  | t :: ts =>
    if g.unmatched || t.length ≤ 3 then ⟨(t ++ [c]) :: ts, true⟩ else ⟨[c] :: t :: ts, true⟩

/-- Goes through a text and its small letters; `skip` characters still belong to the last word. -/
def greedyFrom (words : List (List Char)) (longest : Nat) :
    Nat → List Char → List Char → Greedy → Greedy
  | _, [], _, g => g
  | skip + 1, _ :: rest, lowered, g => greedyFrom words longest skip rest (lowered.drop 1) g
  | 0, c :: rest, lowered, g =>
    let n := longestMatch words lowered (min longest (rest.length + 1))
    if n = 0 then greedyFrom words longest 0 rest (lowered.drop 1) (g.addChar c)
    else
      greedyFrom words longest (n - 1) rest (lowered.drop 1)
        ⟨(c :: rest).take n :: g.tokens, false⟩

/-- The greedy segmentation of a text. -/
def greedySegment (words : List (List Char)) (text : List Char) : List (List Char) :=
  (greedyFrom words (longestWord words) 0 text (Text.lowerList text) ⟨[], false⟩).tokens.reverse

/-- The segmentation of a text into words of the dictionary, greedy if there is no other. -/
def segment (text : List Char) : List (List Char) :=
  (wordBreak dictionary text).getD (greedySegment dictionary text)

end StaticSite.Title
