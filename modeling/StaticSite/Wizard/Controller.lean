import StaticSite.Text.Blank

/-!
# Wizards in the browser

The script that leads through the steps of a wizard, computes its scores and shows its results.
-/

namespace StaticSite.Wizard

/-!
## Steps and scores

The functions that move through a wizard and compute its scores on a page, by the rules of this
library.
-/

/-- The functions that run a wizard on a page. -/
def engineScript : String := Text.unlines
  ["",
   "  function isAnswered(v)\x7b",
   "    if(v===undefined||v===null)return false;",
   "    if(typeof v==='string')return v!=='';",
   "    if(Array.isArray(v))return v.length>0;",
   "    return true;",
   "  \x7d",
   "  function stepIsValid(step)\x7b",
   "    return step.fields.every(function(f)\x7breturn !f.required||isAnswered(answers[f.id])" ++
     "\x7d);",
   "  \x7d",
   "  function nextStepIndex(idx)\x7b",
   "    var step=steps[idx];",
   "    var ids=steps.map(function(s)\x7breturn s.id\x7d);",
   "    var branches=step.branches||[];",
   "    for(var b=0;b<branches.length;b++)\x7b",
   "      if(evalCondition(branches[b].condition,answers)&&ids.indexOf(branches[b].goTo)!==-1)" ++
     "\x7b",
   "        return ids.indexOf(branches[b].goTo);",
   "      \x7d",
   "    \x7d",
   "    if(step.nextStep&&ids.indexOf(step.nextStep)!==-1)return ids.indexOf(step.nextStep);",
   "    return idx+1;",
   "  \x7d",
   "  function completionScore()\x7b",
   "    var required=0,answered=0;",
   "    steps.forEach(function(step)\x7b",
   "      step.fields.forEach(function(f)\x7b",
   "        if(!f.required)return;",
   "        required++;",
   "        if(isAnswered(answers[f.id]))answered++;",
   "      \x7d);",
   "    \x7d);",
   "    return required>0?Math.round(answered/required*100):100;",
   "  \x7d",
   "  function toScoreValue(fieldId,value)\x7b",
   "    if(value===undefined||value===null)return null;",
   "    var valueMap=scoring&&scoring.valueMap?scoring.valueMap[fieldId]:null;",
   "    if(typeof value==='boolean')return 100;",
   "    if(typeof value==='number')return value;",
   "    if(typeof value==='string')\x7b",
   "      if(valueMap&&Object.prototype.hasOwnProperty.call(valueMap,value))return Number(valueM" ++
     "ap[value]);",
   "      if(value.trim()==='')return null;",
   "      return looksNumeric(value)?Number(value):100;",
   "    \x7d",
   "    if(Array.isArray(value))\x7b",
   "      if(value.length===0)return 0;",
   "      if(valueMap)\x7b",
   "        var sum=0,count=0;",
   "        value.forEach(function(entry)\x7b",
   "          if(Object.prototype.hasOwnProperty.call(valueMap,entry))\x7bsum+=Number(valueMap[e" ++
     "ntry]);count++\x7d",
   "        \x7d);",
   "        if(count>0)return sum/count;",
   "      \x7d",
   "      return 100;",
   "    \x7d",
   "    return 100;",
   "  \x7d",
   "  function weightedScore()\x7b",
   "    if(!scoring||scoring.method!=='weighted'||!scoring.weights)return null;",
   "    var total=0,achieved=0;",
   "    Object.keys(scoring.weights).forEach(function(fieldId)\x7b",
   "      var weight=Number(scoring.weights[fieldId]);",
   "      if(!isFinite(weight)||weight<=0)return;",
   "      total+=weight;",
   "      var value=toScoreValue(fieldId,answers[fieldId]);",
   "      if(value===null)return;",
   "      achieved+=weight*(Math.max(0,Math.min(100,Number(value)))/100);",
   "    \x7d);",
   "    if(total<=0)return null;",
   "    return Math.round(achieved/total*100);",
   "  \x7d",
   "  function computeScore()\x7b",
   "    var weighted=weightedScore();",
   "    return weighted!==null?weighted:completionScore();",
   "  \x7d",
   "  function findInRange(list,score)\x7b",
   "    if(!Array.isArray(list))return null;",
   "    for(var k=0;k<list.length;k++)\x7b",
   "      var lo=Number(list[k].min),hi=Number(list[k].max);",
   "      if(!isFinite(lo)||!isFinite(hi))continue;",
   "      if(score>=lo&&score<=hi)return list[k];",
   "    \x7d",
   "    return null;",
   "  \x7d",
   ""]

/-!
## The controller

The script that leads through the steps of a wizard and shows its results.
-/

/-- What the script of a wizard does. -/
def controllerCode : String := Text.unlines
  ["  var container = document.querySelector('.wizard-container');",
   "  if (!container) return;",
   "  var steps = cfg.steps;",
   "  var rules = cfg.rules;",
   "  var scoring = cfg.scoring;",
   "  var copy = cfg.copy;",
   "  var answers = \x7b\x7d;",
   "  var history = [0];",
   "",
   "  function stepEls() \x7b return container.querySelectorAll('.wizard-step'); \x7d",
   "  function showStep(idx) \x7b",
   "    stepEls().forEach(function(el, i) \x7b el.style.display = i === idx ? '' : 'none'; \x7d)" ++
     ";",
   "    container.querySelectorAll('.wizard-progress-segment').forEach(function(el, i) \x7b",
   "      el.classList.toggle('active', i <= idx);",
   "      el.classList.toggle('current', i === idx);",
   "    \x7d);",
   "  \x7d",
   "  function collectAnswers(stepEl) \x7b",
   "    stepEl.querySelectorAll('[name]').forEach(function(el) \x7b",
   "      var name = el.name;",
   "      if (el.type === 'radio') \x7b",
   "        if (el.checked) answers[name] = el.value;",
   "      \x7d else if (el.type === 'checkbox') \x7b",
   "        if (!Array.isArray(answers[name])) answers[name] = [];",
   "        var pos = answers[name].indexOf(el.value);",
   "        if (el.checked && pos === -1) answers[name].push(el.value);",
   "        else if (!el.checked && pos !== -1) answers[name].splice(pos, 1);",
   "      \x7d else \x7b",
   "        answers[name] = el.value;",
   "      \x7d",
   "    \x7d);",
   "  \x7d",
   "  function safeUrl(url) \x7b return /^(https?:\\/\\/|\\/)/.test(String(url || '')) ? String(" ++
     "url) : '#'; \x7d",
   "  function addCard(cardsEl, title, body, cta, extraClass) \x7b",
   "    var card = document.createElement('div');",
   "    card.className = 'wizard-result-card' + (extraClass ? ' ' + extraClass : '');",
   "    var h = document.createElement('h4'); h.textContent = title; card.appendChild(h);",
   "    var p = document.createElement('p'); p.textContent = body; card.appendChild(p);",
   "    if (cta && cta.url) \x7b",
   "      var a = document.createElement('a');",
   "      a.className = 'cta-button'; a.href = safeUrl(cta.url); a.textContent = cta.text || '';",
   "      card.appendChild(a);",
   "    \x7d",
   "    cardsEl.appendChild(card);",
   "  \x7d",
   "  function fieldLabel(fieldId) \x7b",
   "    for (var s = 0; s < steps.length; s++) \x7b",
   "      for (var f = 0; f < steps[s].fields.length; f++) \x7b",
   "        if (steps[s].fields[f].id === fieldId) return steps[s].fields[f].label || fieldId;",
   "      \x7d",
   "    \x7d",
   "    return fieldId;",
   "  \x7d",
   "  function showResults() \x7b",
   "    stepEls().forEach(function(el) \x7b el.style.display = 'none'; \x7d);",
   "    container.querySelectorAll('.wizard-progress-segment').forEach(function(el) \x7b el.clas" ++
     "sList.add('active'); \x7d);",
   "    var resultsEl = container.querySelector('.wizard-results');",
   "    var cardsEl = resultsEl.querySelector('.wizard-results-cards');",
   "    cardsEl.textContent = '';",
   "    var matched = [];",
   "    rules.forEach(function(rule) \x7b",
   "      if (evalCondition(rule.condition, answers)) \x7b",
   "        matched.push(rule.title);",
   "        addCard(cardsEl, rule.title, rule.body, rule.cta, 'result-' + cfg.resultTemplate);",
   "      \x7d",
   "    \x7d);",
   "    var score = computeScore();",
   "    if (!matched.length) \x7b",
   "      var outcome = scoring ? findInRange(scoring.outcomes, score) : null;",
   "      if (outcome) addCard(cardsEl, outcome.title, outcome.body, outcome.cta, 'result-' + cf" ++
     "g.resultTemplate);",
   "      else addCard(cardsEl, copy.emptyTitle, copy.emptyBody, null, '');",
   "    \x7d",
   "    var summaryEl = container.querySelector('.wizard-answer-summary');",
   "    if (summaryEl) \x7b",
   "      var listEl = summaryEl.querySelector('.wizard-answer-list');",
   "      listEl.textContent = '';",
   "      Object.keys(answers).forEach(function(key) \x7b",
   "        var value = answers[key];",
   "        var item = document.createElement('li');",
   "        item.textContent = fieldLabel(key) + ': ' + (Array.isArray(value) ? value.join(', ')" ++
     " : String(value || '(none)'));",
   "        listEl.appendChild(item);",
   "      \x7d);",
   "      summaryEl.style.display = '';",
   "    \x7d",
   "    var scoreEl = container.querySelector('.wizard-quiz-score');",
   "    if (scoreEl) \x7b",
   "      var band = scoring ? findInRange(scoring.bands, score) : null;",
   "      var prefix = cfg.mode === 'quiz' ? 'Quiz Score: ' : 'Assessment Score: ';",
   "      scoreEl.textContent = '';",
   "      var line = document.createElement('span');",
   "      line.textContent = prefix + score + '%' + (band && band.label ? ' - ' + band.label : '" ++
     "');",
   "      scoreEl.appendChild(line);",
   "      if (band && band.description) \x7b",
   "        var detail = document.createElement('div');",
   "        detail.className = 'wizard-score-detail';",
   "        detail.textContent = band.description;",
   "        scoreEl.appendChild(detail);",
   "      \x7d",
   "      scoreEl.style.display = '';",
   "    \x7d",
   "    resultsEl.style.display = '';",
   "    var leadForm = container.querySelector('.wizard-lead-form');",
   "    if (leadForm) leadForm.style.display = '';",
   "    if (cfg.embed && window.parent !== window) \x7b",
   "      window.parent.postMessage(\x7b type: 'embed-result', source: cfg.domain, score: score," ++
     " results: matched \x7d, '*');",
   "    \x7d",
   "  \x7d",
   "  function restart() \x7b",
   "    answers = \x7b\x7d;",
   "    history = [0];",
   "    container.querySelector('.wizard-results').style.display = 'none';",
   "    ['.wizard-answer-summary', '.wizard-quiz-score', '.wizard-lead-form'].forEach(function(s" ++
     "el) \x7b",
   "      var el = container.querySelector(sel);",
   "      if (el) el.style.display = 'none';",
   "    \x7d);",
   "    container.querySelectorAll('.wizard-step input, .wizard-step select').forEach(function(e" ++
     "l) \x7b",
   "      if (el.type === 'checkbox' || el.type === 'radio') el.checked = false;",
   "      else el.value = '';",
   "    \x7d);",
   "    showStep(0);",
   "  \x7d",
   "  container.addEventListener('click', function(e) \x7b",
   "    var btn = e.target.closest('button');",
   "    if (!btn) return;",
   "    if (btn.classList.contains('wizard-next')) \x7b",
   "      var idx = history[history.length - 1];",
   "      var stepEl = stepEls()[idx];",
   "      collectAnswers(stepEl);",
   "      if (!stepIsValid(steps[idx])) \x7b",
   "        stepEl.classList.add('wizard-shake');",
   "        setTimeout(function() \x7b stepEl.classList.remove('wizard-shake'); \x7d, 400);",
   "        return;",
   "      \x7d",
   "      var next = nextStepIndex(idx);",
   "      if (next >= steps.length) showResults();",
   "      else \x7b history.push(next); showStep(next); \x7d",
   "    \x7d else if (btn.classList.contains('wizard-back')) \x7b",
   "      if (history.length > 1) \x7b history.pop(); showStep(history[history.length - 1]); " ++
     "\x7d",
   "    \x7d else if (btn.classList.contains('wizard-restart')) \x7b",
   "      restart();",
   "    \x7d",
   "  \x7d);",
   ""]

/-- The script of a wizard with given settings. -/
def controllerScript (settings : String) : String :=
  "\n  var cfg = " ++ settings ++ ";\n" ++ controllerCode

end StaticSite.Wizard
