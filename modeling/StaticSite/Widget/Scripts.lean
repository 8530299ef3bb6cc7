import StaticSite.Text.Blank

/-!
# Widgets in the browser

The scripts of widgets. Those that need data take it as a text in the notation of the script, and
begin by giving it a name.
-/

namespace StaticSite

/-! ### Checklists -/

/-- The script of a checklist. -/
def checklistScript : String := Text.unlines
  ["",
   "  var boxes = document.querySelectorAll('.checklist-item input[type=\"checkbox\"]');",
   "  var countEl = document.getElementById('checklist-completed-count');",
   "  if (!boxes.length || !countEl) return;",
   "  function updateCount() \x7b",
   "    var checked = 0;",
   "    boxes.forEach(function(cb) \x7b if (cb.checked) checked++; \x7d);",
   "    countEl.textContent = String(checked);",
   "  \x7d",
   "  boxes.forEach(function(cb) \x7b cb.addEventListener('change', updateCount); \x7d);",
   ""]

/-! ### Infographics -/

/-- The script of an infographic. -/
def infographicScript : String := Text.unlines
  ["",
   "  var shell = document.querySelector('.infographic-shell');",
   "  if (!shell) return;",
   "  var cards = Array.prototype.slice.call(shell.querySelectorAll('.infographic-card'));",
   "  var chips = Array.prototype.slice.call(shell.querySelectorAll('[data-infographic-filter]')" ++
     ");",
   "  var sort = shell.querySelector('#infographic-sort');",
   "  var grid = shell.querySelector('.infographic-grid');",
   "  function applyFilter(group) \x7b",
   "    cards.forEach(function(card) \x7b",
   "      card.style.display = (group === 'all' || card.dataset.group === group) ? '' : 'none';",
   "    \x7d);",
   "  \x7d",
   "  function applySort(mode) \x7b",
   "    cards.slice().sort(function(a, b) \x7b",
   "      var av = Number(a.dataset.metric || 0), bv = Number(b.dataset.metric || 0);",
   "      return mode === 'asc' ? av - bv : bv - av;",
   "    \x7d).forEach(function(card) \x7b grid.appendChild(card); \x7d);",
   "  \x7d",
   "  chips.forEach(function(chip) \x7b",
   "    chip.addEventListener('click', function() \x7b",
   "      chips.forEach(function(c) \x7b c.classList.remove('active'); \x7d);",
   "      chip.classList.add('active');",
   "      applyFilter(chip.dataset.infographicFilter || 'all');",
   "      applySort(sort && sort.value ? sort.value : 'desc');",
   "    \x7d);",
   "  \x7d);",
   "  if (sort) sort.addEventListener('change', function() \x7b applySort(sort.value || 'desc');" ++
     " \x7d);",
   ""]

/-! ### Contact forms -/

/-- What the script of a contact form does. -/
def leadCode : String := Text.unlines
  ["  var form = document.getElementById('lead-form');",
   "  if (!form) return;",
   "  var consent = document.getElementById('lead-consent');",
   "  var submitBtn = form.querySelector('button[type=\"submit\"]');",
   "  var msgEl = document.getElementById('lead-form-message');",
   "  function refresh() \x7b submitBtn.disabled = !cfg.endpoint || (consent && !consent.checked" ++
     "); \x7d",
   "  if (submitBtn) \x7b",
   "    refresh();",
   "    if (consent) consent.addEventListener('change', refresh);",
   "  \x7d",
   "  form.addEventListener('submit', function(e) \x7b",
   "    e.preventDefault();",
   "    if (!cfg.endpoint || (consent && !consent.checked)) return;",
   "    var hp = document.getElementById('lead_hp_field');",
   "    if (hp && hp.value) \x7b msgEl.textContent = 'Thank you!'; msgEl.className = 'success-ms" ++
     "g'; return; \x7d",
   "    submitBtn.disabled = true;",
   "    submitBtn.textContent = 'Submitting...';",
   "    msgEl.textContent = '';",
   "    msgEl.className = '';",
   "    var body = \x7b\x7d;",
   "    new FormData(form).forEach(function(val, key) \x7b if (key !== 'lead_hp_field') body[key" ++
     "] = val; \x7d);",
   "    fetch(cfg.endpoint, \x7b",
   "      method: 'POST',",
   "      headers: \x7b 'Content-Type': 'application/json' \x7d,",
   "      body: JSON.stringify(body)",
   "    \x7d).then(function(res) \x7b",
   "      if (!res.ok) throw new Error('Submission failed');",
   "      msgEl.textContent = cfg.successMessage;",
   "      msgEl.className = 'success-msg';",
   "      form.reset();",
   "      submitBtn.textContent = 'Submitted';",
   "    \x7d).catch(function() \x7b",
   "      msgEl.textContent = 'Something went wrong. Please try again.';",
   "      msgEl.className = 'error-msg';",
   "      submitBtn.disabled = false;",
   "      submitBtn.textContent = 'Submit';",
   "    \x7d);",
   "  \x7d);",
   ""]

/-- The script of a contact form with given settings. -/
def leadScript (settings : String) : String := "\n  var cfg = " ++ settings ++ ";\n" ++ leadCode

/-! ### Maps -/

/-- What the script of a map does. -/
def mapCode : String := Text.unlines
  ["  var root = document.querySelector('.imap-shell');",
   "  if (!root) return;",
   "  var select = root.querySelector('#imap-select');",
   "  var buttons = Array.prototype.slice.call(root.querySelectorAll('[data-region-key]:not(.ima" ++
     "p-panel)'));",
   "  var panels = Array.prototype.slice.call(root.querySelectorAll('.imap-panel'));",
   "  var fallback = root.querySelector('.imap-fallback');",
   "  function setActive(key) \x7b",
   "    var matched = false;",
   "    buttons.forEach(function(btn) \x7b btn.classList.toggle('active', btn.dataset.regionKey " ++
     "=== key); \x7d);",
   "    panels.forEach(function(panel) \x7b",
   "      var show = panel.dataset.regionKey === key;",
   "      panel.style.display = show ? '' : 'none';",
   "      if (show) matched = true;",
   "    \x7d);",
   "    if (fallback) fallback.style.display = matched ? 'none' : '';",
   "    if (select && select.value !== key) select.value = key;",
   "  \x7d",
   "  buttons.forEach(function(btn) \x7b",
   "    btn.addEventListener('click', function() \x7b setActive(btn.dataset.regionKey || default" ++
     "Key); \x7d);",
   "  \x7d);",
   "  if (select) select.addEventListener('change', function() \x7b setActive(select.value || de" ++
     "faultKey); \x7d);",
   "  setActive(defaultKey);",
   ""]

/-- The script of a map that shows a given region first. -/
def mapScript (region : String) : String := "\n  var defaultKey = " ++ region ++ ";\n" ++ mapCode

/-! ### Regions -/

/-- The script that chooses a region. -/
def regionScript : String := Text.unlines
  ["",
   "  var stateByZone = \x7b",
   "    'America/New_York':'NY','America/Chicago':'IL','America/Denver':'CO','America/Los_Angele" ++
     "s':'CA',",
   "    'America/Phoenix':'AZ','America/Detroit':'MI','America/Boise':'ID','America/Juneau':'AK'" ++
     ",",
   "    'America/Anchorage':'AK','America/Sitka':'AK','America/Yakutat':'AK','America/Nome':'AK'" ++
     ",",
   "    'America/Metlakatla':'AK','America/Adak':'AK','Pacific/Honolulu':'HI',",
   "    'America/Indiana/Indianapolis':'IN','America/Indiana/Knox':'IN','America/Indiana/Marengo" ++
     "':'IN',",
   "    'America/Indiana/Petersburg':'IN','America/Indiana/Tell_City':'IN','America/Indiana/Veva" ++
     "y':'IN',",
   "    'America/Indiana/Vincennes':'IN','America/Indiana/Winamac':'IN',",
   "    'America/Kentucky/Louisville':'KY','America/Kentucky/Monticello':'KY','America/Menominee" ++
     "':'WI',",
   "    'America/North_Dakota/Beulah':'ND','America/North_Dakota/Center':'ND','America/North_Dak" ++
     "ota/New_Salem':'ND'",
   "  \x7d;",
   "  var regionByState = \x7b",
   "    AL:'southeast',AK:'west',AZ:'southwest',AR:'southeast',CA:'west',CO:'mountain',CT:'north" ++
     "east',",
   "    DE:'northeast',FL:'southeast',GA:'southeast',HI:'west',ID:'mountain',IL:'midwest',IN:'mi" ++
     "dwest',",
   "    IA:'midwest',KS:'midwest',KY:'southeast',LA:'southeast',ME:'northeast',MD:'northeast',",
   "    MA:'northeast',MI:'midwest',MN:'midwest',MS:'southeast',MO:'midwest',MT:'mountain',NE:'m" ++
     "idwest',",
   "    NV:'west',NH:'northeast',NJ:'northeast',NM:'southwest',NY:'northeast',NC:'southeast',",
   "    ND:'midwest',OH:'midwest',OK:'southwest',OR:'west',PA:'northeast',RI:'northeast',",
   "    SC:'southeast',SD:'midwest',TN:'southeast',TX:'southwest',UT:'mountain',VT:'northeast',",
   "    VA:'southeast',WA:'west',WV:'southeast',WI:'midwest',WY:'mountain',DC:'northeast'",
   "  \x7d;",
   "  try \x7b",
   "    var zone = Intl.DateTimeFormat().resolvedOptions().timeZone;",
   "    var state = stateByZone[zone] || null;",
   "    var region = state ? regionByState[state] : null;",
   "    var candidates = [state, region].filter(Boolean);",
   "    if (!candidates.length) return;",
   "    var matched = false;",
   "    document.querySelectorAll('.geo-block[data-region]').forEach(function(block) \x7b",
   "      if (candidates.indexOf(block.dataset.region) !== -1) \x7b block.style.display = ''; ma" ++
     "tched = true; \x7d",
   "    \x7d);",
   "    if (matched) \x7b",
   "      var fallback = document.querySelector('.geo-fallback');",
   "      if (fallback) fallback.style.display = 'none';",
   "    \x7d",
   "  \x7d catch (e) \x7b\x7d",
   ""]

/-! ### Sorting a comparison -/

/-- What the script does before a column is chosen. -/
def sortCode : String := Text.unlines
  ["",
   "  var table = document.getElementById('comparison-table');",
   "  if (!table) return;",
   "  var headers = table.querySelectorAll('th[data-sort-key]');",
   "  var currentSort = null;",
   "  var ascending = true;",
   "  function cellValue(row, index) \x7b",
   "    var cell = row.children[index];",
   "    return cell ? (cell.getAttribute('data-value') || cell.textContent || '') : '';",
   "  \x7d",
   "  function sortBy(th) \x7b",
   "    var key = th.getAttribute('data-sort-key');",
   "    if (currentSort === key) \x7b ascending = !ascending; \x7d else \x7b currentSort = key; " ++
     "ascending = true; \x7d",
   "    var index = Array.prototype.indexOf.call(th.parentNode.children, th);",
   "    var tbody = table.querySelector('tbody');",
   "    var rows = Array.prototype.slice.call(tbody.querySelectorAll('tr')).map(function(row, po" ++
     "s) \x7b",
   "      return \x7b row: row, pos: pos, value: cellValue(row, index) \x7d;",
   "    \x7d);",
   "    rows.sort(function(a, b) \x7b",
   "      var an = parseFloat(a.value), bn = parseFloat(b.value), diff;",
   "      if (!isNaN(an) && !isNaN(bn)) diff = an - bn;",
   "      else diff = a.value.localeCompare(b.value);",
   "      if (!ascending) diff = -diff;",
   "      return diff !== 0 ? diff : a.pos - b.pos;",
   "    \x7d);",
   "    rows.forEach(function(r) \x7b tbody.appendChild(r.row); \x7d);",
   "    headers.forEach(function(h) \x7b",
   "      var ind = h.querySelector('.sort-indicator');",
   "      if (ind) ind.textContent = h === th ? (ascending ? '↑' : '↓') : '↕';",
   "    \x7d);",
   "  \x7d",
   "  headers.forEach(function(th) \x7b",
   "    th.addEventListener('click', function() \x7b sortBy(th); \x7d);",
   "    th.addEventListener('keydown', function(e) \x7b",
   "      if (e.key === 'Enter' || e.key === ' ') \x7b e.preventDefault(); sortBy(th); \x7d",
   "    \x7d);",
   "  \x7d);",
   ""]

/-- What the script does with the column that is chosen first. -/
def sortByDefault : String := Text.unlines
  ["  if (defaultKey) \x7b",
   "    headers.forEach(function(th) \x7b if (th.getAttribute('data-sort-key') === defaultKey) s" ++
     "ortBy(th); \x7d);",
   "  \x7d",
   ""]

/-- The script that sorts a comparison, by a given column first. -/
def sortScript (column : String) : String :=
  sortCode ++ "  var defaultKey = " ++ column ++ ";\n" ++ sortByDefault

end StaticSite
