import StaticSite.Text.Blank

/-!
# Conditions in the browser

The script that evaluates conditions on a page. It cuts, parses and evaluates a condition by the
rules of this library.
-/

namespace StaticSite.Condition

/-- The functions that evaluate a condition on a page. -/
def evaluatorScript : String := Text.unlines
  ["",
   "  function isNum(v)\x7breturn typeof v==='number'\x7d",
   "  function looksNumeric(s)\x7breturn typeof s==='string'&&/^\\s*-?(?:\\d+\\.?\\d*|\\.\\d+)(?" ++
     ":[eE][-+]?\\d+)?\\s*$/.test(s)\x7d",
   "  function toNumber(v)\x7b",
   "    if(typeof v==='boolean')return v?1:0;",
   "    if(isNum(v))return v;",
   "    if(looksNumeric(v))return Number(v);",
   "    return NaN;",
   "  \x7d",
   "  function toText(v)\x7b",
   "    if(Array.isArray(v))return v.map(toText).join(',');",
   "    if(v===null||v===undefined)return '';",
   "    return String(v);",
   "  \x7d",
   "  function coercePair(l,r)\x7b",
   "    if(typeof l==='string'&&isNum(r)&&looksNumeric(l))l=Number(l);",
   "    if(typeof r==='string'&&isNum(l)&&looksNumeric(r))r=Number(r);",
   "    return [l,r];",
   "  \x7d",
   "  function looseEquals(l,r)\x7b",
   "    var p=coercePair(l,r);l=p[0];r=p[1];",
   "    if(isNum(l)&&isNum(r))return l===r;",
   "    if(typeof l==='boolean'||typeof r==='boolean')\x7b",
   "      if(typeof l==='boolean'&&typeof r==='boolean')return l===r;",
   "      return toNumber(l)===toNumber(r);",
   "    \x7d",
   "    if(Array.isArray(l)&&typeof r==='string')return toText(l)===r;",
   "    if(Array.isArray(r)&&typeof l==='string')return toText(r)===l;",
   "    if(typeof l===typeof r&&!Array.isArray(l)&&!Array.isArray(r))return l===r;",
   "    return false;",
   "  \x7d",
   "  function truthy(v)\x7b",
   "    if(Array.isArray(v))return v.length>0;",
   "    if(isNum(v))return v!==0&&!isNaN(v);",
   "    return !!v;",
   "  \x7d",
   "  function tokenize(cond)\x7b",
   "    var tokens=[],i=0,n=cond.length,m;",
   "    while(i<n)\x7b",
   "      var ch=cond[i];",
   "      if(' \\t\\r\\n'.indexOf(ch)!==-1)\x7bi++;continue\x7d",
   "      if(ch===\"'\"||ch==='\"')\x7b",
   "        var end=cond.indexOf(ch,i+1);",
   "        if(end===-1)throw new Error('unterminated string');",
   "        tokens.push(\x7bt:'str',v:cond.slice(i+1,end)\x7d);i=end+1;continue;",
   "      \x7d",
   "      if(/[0-9-]/.test(ch)&&(m=/^-?\\d+(?:\\.\\d+)?/.exec(cond.slice(i))))\x7b",
   "        tokens.push(\x7bt:'num',v:parseFloat(m[0])\x7d);i+=m[0].length;continue;",
   "      \x7d",
   "      var pair=cond.slice(i,i+2);",
   "      if(['==','!=','>=','<=','&&','||'].indexOf(pair)!==-1)\x7btokens.push(\x7bt:'op',v:pai" ++
     "r\x7d);i+=2;continue\x7d",
   "      if(ch==='<'||ch==='>')\x7btokens.push(\x7bt:'op',v:ch\x7d);i++;continue\x7d",
   "      if(ch==='(')\x7btokens.push(\x7bt:'lparen'\x7d);i++;continue\x7d",
   "      if(ch===')')\x7btokens.push(\x7bt:'rparen'\x7d);i++;continue\x7d",
   "      m=/^[A-Za-z0-9_.]+/.exec(cond.slice(i));",
   "      if(!m)throw new Error('unexpected character');",
   "      var word=m[0];i+=word.length;",
   "      if(word==='.includes')\x7btokens.push(\x7bt:'includes'\x7d)\x7d",
   "      else if(word.length>9&&word.slice(-9)==='.includes')\x7btokens.push(\x7bt:'ref',v:word" ++
     ".slice(0,-9)\x7d);tokens.push(\x7bt:'includes'\x7d)\x7d",
   "      else if(word==='true'||word==='false')\x7btokens.push(\x7bt:'bool',v:word==='true'\x7d" ++
     ")\x7d",
   "      else if(word[0]==='.'||word[word.length-1]==='.'||word.indexOf('..')!==-1)\x7bthrow ne" ++
     "w Error('malformed reference')\x7d",
   "      else tokens.push(\x7bt:'ref',v:word\x7d);",
   "    \x7d",
   "    return tokens;",
   "  \x7d",
   "  function resolveToken(tok,answers)\x7b",
   "    if(tok.t!=='ref')return tok.v;",
   "    if(Object.prototype.hasOwnProperty.call(answers,tok.v))\x7b",
   "      var direct=answers[tok.v];",
   "      return direct===null||direct===undefined?'':direct;",
   "    \x7d",
   "    var cur=answers,parts=tok.v.split('.');",
   "    for(var k=0;k<parts.length;k++)\x7b",
   "      if(cur===null||typeof cur!=='object'||!Object.prototype.hasOwnProperty.call(cur,parts[" ++
     "k]))return '';",
   "      cur=cur[parts[k]];",
   "    \x7d",
   "    return cur===null||cur===undefined?'':cur;",
   "  \x7d",
   "  function includes(container,item)\x7b",
   "    if(Array.isArray(container))return container.indexOf(item)!==-1;",
   "    return toText(container).indexOf(toText(item))!==-1;",
   "  \x7d",
   "  function compare(op,l,r)\x7b",
   "    if(op==='==')return looseEquals(l,r);",
   "    if(op==='!=')return !looseEquals(l,r);",
   "    var p=coercePair(l,r);",
   "    var a=toNumber(p[0]),b=toNumber(p[1]);",
   "    if(isNaN(a)||isNaN(b))return false;",
   "    if(op==='>=')return a>=b;",
   "    if(op==='<=')return a<=b;",
   "    if(op==='>')return a>b;",
   "    if(op==='<')return a<b;",
   "    throw new Error('unknown operator');",
   "  \x7d",
   "  function evalCondition(cond,answers)\x7b",
   "    try\x7b",
   "      var tokens=tokenize(String(cond||''));",
   "      if(tokens.length===0)return false;",
   "      var pos=0;",
   "      function take()\x7bif(pos>=tokens.length)throw new Error('unexpected end');return toke" ++
     "ns[pos++]\x7d",
   "      function expect(kind)\x7bvar tok=take();if(tok.t!==kind)throw new Error('expected '+ki" ++
     "nd);return tok\x7d",
   "      function operand()\x7b",
   "        var tok=take();",
   "        if(['str','num','bool','ref'].indexOf(tok.t)===-1)throw new Error('expected value');",
   "        return resolveToken(tok,answers);",
   "      \x7d",
   "      function comparison()\x7b",
   "        var left=operand();",
   "        var tok=tokens[pos];",
   "        if(!tok||(tok.t==='op'&&(tok.v==='&&'||tok.v==='||')))return truthy(left);",
   "        if(tok.t==='includes')\x7b",
   "          pos++;expect('lparen');var arg=operand();expect('rparen');",
   "          return includes(left,arg);",
   "        \x7d",
   "        if(tok.t==='op')\x7bpos++;return compare(tok.v,left,operand())\x7d",
   "        throw new Error('unexpected token');",
   "      \x7d",
   "      var result=comparison();",
   "      while(pos<tokens.length)\x7b",
   "        var op=take();",
   "        if(op.t!=='op'||(op.v!=='&&'&&op.v!=='||'))throw new Error('unexpected token');",
   "        var rhs=comparison();",
   "        result=op.v==='&&'?(result&&rhs):(result||rhs);",
   "      \x7d",
   "      return !!result;",
   "    \x7dcatch(e)\x7breturn false\x7d",
   "  \x7d",
   ""]

end StaticSite.Condition
