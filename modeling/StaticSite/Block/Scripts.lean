import StaticSite.Text.Blank

/-!
# Blocks in the browser

The scripts of blocks. Each begins by looking up the element of its block, whose identifier is
given as a string in the notation of the script.
-/

namespace StaticSite.Block

/-- The line of a script that looks up an element of the page. -/
def elementNamed (place id : String) : String :=
  "\n  var " ++ place ++ " = document.getElementById(" ++ id ++ ");\n"

/-- What a call to action does as the reader scrolls. -/
def scrollCtaCode : String := Text.unlines
  ["  if (!cta) return;",
   "  var sentinel = cta.previousElementSibling;",
   "  if (!sentinel || !('IntersectionObserver' in window)) \x7b cta.style.display = ''; return;" ++
     " \x7d",
   "  var observer = new IntersectionObserver(function(entries) \x7b",
   "    if (entries[0].isIntersecting) \x7b",
   "      cta.style.display = '';",
   "      requestAnimationFrame(function() \x7b cta.classList.add('scroll-cta-visible'); \x7d);",
   "      observer.disconnect();",
   "    \x7d",
   "  \x7d, \x7b threshold: 0.1 \x7d);",
   "  observer.observe(sentinel);",
   "  cta.querySelector('.scroll-cta-dismiss').addEventListener('click', function() \x7b",
   "    cta.classList.remove('scroll-cta-visible');",
   "    setTimeout(function() \x7b cta.style.display = 'none'; \x7d, 300);",
   "  \x7d);",
   ""]

/-- The script of a call to action that appears as the reader scrolls. -/
def scrollCtaScript (id : String) : String := elementNamed "cta" id ++ scrollCtaCode

/-- What a list of steps does as they are ticked off. -/
def tickedCode : String := Text.unlines
  ["  if (!root) return;",
   "  var checks = root.querySelectorAll('.checklist-checkbox');",
   "  var progress = root.querySelector('.checklist-progress');",
   "  function update() \x7b",
   "    var done = 0;",
   "    checks.forEach(function(c) \x7b if (c.checked) done++; \x7d);",
   "    if (progress) progress.textContent = done + ' of ' + checks.length + ' completed';",
   "  \x7d",
   "  checks.forEach(function(c) \x7b c.addEventListener('change', update); \x7d);",
   ""]

/-- The script of a list of steps that are ticked off. -/
def tickedScript (id : String) : String := elementNamed "root" id ++ tickedCode

/-- What a grid does as a group is chosen. -/
def chipsCode : String := Text.unlines
  ["  if (!root) return;",
   "  var chips = root.querySelectorAll('.infographic-chip');",
   "  var cards = root.querySelectorAll('.infographic-card');",
   "  chips.forEach(function(chip) \x7b",
   "    chip.addEventListener('click', function() \x7b",
   "      chips.forEach(function(c) \x7b c.classList.remove('active'); \x7d);",
   "      chip.classList.add('active');",
   "      var group = chip.dataset.group;",
   "      cards.forEach(function(card) \x7b",
   "        card.style.display = (group === 'all' || card.dataset.group === group) ? '' : 'none'" ++
     ";",
   "      \x7d);",
   "    \x7d);",
   "  \x7d);",
   ""]

/-- The script of a grid that shows one group at a time. -/
def chipsScript (id : String) : String := elementNamed "root" id ++ chipsCode

/-- What a table does as a heading is chosen. -/
def tableSortCode : String := Text.unlines
  ["  if (!table) return;",
   "  table.querySelectorAll('th[data-sort-col]').forEach(function(th) \x7b",
   "    th.addEventListener('click', function() \x7b",
   "      var col = parseInt(th.dataset.sortCol, 10);",
   "      var tbody = table.querySelector('tbody');",
   "      var rows = Array.prototype.slice.call(tbody.querySelectorAll('tr'));",
   "      var asc = th.dataset.sortDir !== 'asc';",
   "      th.dataset.sortDir = asc ? 'asc' : 'desc';",
   "      rows.sort(function(a, b) \x7b",
   "        var ac = a.children[col], bc = b.children[col];",
   "        var av = ac ? (ac.dataset.value || ac.textContent || '') : '';",
   "        var bv = bc ? (bc.dataset.value || bc.textContent || '') : '';",
   "        var an = parseFloat(av), bn = parseFloat(bv);",
   "        if (!isNaN(an) && !isNaN(bn)) return asc ? an - bn : bn - an;",
   "        return asc ? av.localeCompare(bv) : bv.localeCompare(av);",
   "      \x7d);",
   "      rows.forEach(function(r) \x7b tbody.appendChild(r); \x7d);",
   "    \x7d);",
   "  \x7d);",
   ""]

/-- The script of a table that is sorted by its columns. -/
def tableSortScript (id : String) : String := elementNamed "table" id ++ tableSortCode

/-- What a download does as its form is sent. -/
def gateCode : String := Text.unlines
  ["  if (!root) return;",
   "  var form = root.querySelector('.pdf-gate-form');",
   "  var link = root.querySelector('.pdf-download-btn');",
   "  if (!form || !link) return;",
   "  form.addEventListener('submit', function(e) \x7b",
   "    e.preventDefault();",
   "    form.style.display = 'none';",
   "    link.style.display = '';",
   "  \x7d);",
   ""]

/-- The script of a download behind a form. -/
def gateScript (id : String) : String := elementNamed "root" id ++ gateCode

end StaticSite.Block
